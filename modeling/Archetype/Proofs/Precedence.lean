import Archetype.Proofs.Acceptance
import Archetype.Proofs.Inheritance
import Archetype.Proofs.Statements

/-! # The last statement that fits

    A field for a scalar or for a reference holds one value, and a statement about it either fits, and then
    gives the value whatever was there, or is reported and leaves everything as it was.  So along a line it is
    the last statement that fits which tells the value, be it of the definition itself or of the eldest of its
    ancestors; of those that come after it and do not fit there is nothing to see but the reports.

    Whether a statement fits (`Staged.fitting?`) is a matter of the field of the *prototype*: its type may
    declare the field otherwise than the type of the ancestor that makes the statement, or may have nothing in
    common with it. -/

namespace Archetype

/-- A type whose fields hold one value, that each statement gives anew: a scalar or a reference. -/
def FieldType.isPlain : FieldType → Bool
  | scalar _ => true
  | reference _ => true
  | _ => false

/-- The value that a statement gives a field of the given type, if it fits: a scalar of the declared
    converter, or a bound reference, which is empty or leads to a prototype of the declared type. -/
def Staged.fitting? (type : FieldType) : Staged → Option Value
  | .scalar converter v =>
    match type with
    | .scalar declared => if converter = declared then some v else none
    | _ => none
  | .bound _ none =>
    match type with
    | .reference _ => some .null
    | _ => none
  | .bound _ (some target) =>
    match type with
    | .reference declared => if target.type.isA declared then some (.reference target) else none
    | _ => none
  | _ => none

/-- The value of the last statement about a field that fits it, else its default. -/
def lastFitting (field : Field) (staged : List StagedField) : Option Value :=
  (((staged.filter (·.name == field.name)).filterMap (·.value.fitting? field.type)).getLast?).or
    field.default

namespace Application

variable {type : FieldType} {v : Staged}

/-! ## One statement -/

section Built

variable (existing : Option Value) (location : Location)

/-- A statement that fits gives its value, and is not reported. -/
theorem built_of_fitting {w : Value} (h : v.fitting? type = some w) :
    built type existing location v = pure (some w) := by
  cases v with
  | scalar converter u =>
      cases type <;> try contradiction
      rename_i declared
      obtain ⟨rfl, rfl⟩ : converter = declared ∧ u = w := by
        simpa [Staged.fitting?] using h
      exact built_scalar_fit existing location converter u
  | bound id target =>
      cases target with
      | none =>
          cases type <;> try contradiction
          rw [built_reference_fit, ← Option.some.inj h]
          rfl
      | some target =>
          cases type <;> try contradiction
          rename_i declared
          obtain ⟨hisA, rfl⟩ : target.type.isA declared = true ∧ Value.reference target = w := by
            simpa [Staged.fitting?] using h
          rw [built_reference_fit, reference, if_pos hisA]
  | object _ => cases h
  | collection _ _ _ => cases h
  | pending _ => cases h

/-- A statement that does not fit is reported, and gives nothing. -/
theorem exists_mismatch (hplain : type.isPlain = true) (h : v.fitting? type = none) :
    ∃ message, built type existing location v = mismatch location message := by
  cases v with
  | scalar converter u =>
      rw [built_scalar]
      cases type with
      | scalar declared =>
          have hne : converter ≠ declared := by
            intro heq
            rw [Staged.fitting?, if_pos heq] at h
            cases h
          exact ⟨_, if_neg hne⟩
      | object _ => exact ⟨_, rfl⟩
      | reference _ => exact ⟨_, rfl⟩
      | collection _ _ => exact ⟨_, rfl⟩
  | bound id target =>
      rw [built_bound]
      cases type with
      | reference declared =>
          cases target with
          | none => cases h
          | some target =>
              have hisA : ¬ target.type.isA declared = true := by
                intro hisA
                rw [Staged.fitting?, if_pos hisA] at h
                cases h
              exact ⟨_, if_neg hisA⟩
      | scalar _ => exact ⟨_, rfl⟩
      | object _ => exact ⟨_, rfl⟩
      | collection _ _ => exact ⟨_, rfl⟩
  | object o =>
      obtain ⟨stated, staged, place⟩ := o
      rw [built_object]
      cases type with
      | object _ => cases hplain
      | scalar _ => exact ⟨_, rfl⟩
      | reference _ => exact ⟨_, rfl⟩
      | collection _ _ => exact ⟨_, rfl⟩
  | collection stated action staged =>
      rw [built_collection]
      cases type with
      | collection _ _ => cases hplain
      | scalar _ => exact ⟨_, rfl⟩
      | object _ => exact ⟨_, rfl⟩
      | reference _ => exact ⟨_, rfl⟩
  | pending id => exact ⟨_, built.eq_def ..⟩

/-- So what there was in the field makes no difference. -/
theorem value_built (hplain : type.isPlain = true) :
    (built type existing location v).value = v.fitting? type := by
  cases h : v.fitting? type with
  | some w => rw [built_of_fitting existing location h, Noted.value_pure]
  | none =>
      obtain ⟨message, hmessage⟩ := exists_mismatch existing location hplain h
      rw [hmessage]
      rfl

end Built

/-- A statement that a plain field refuses: the fields stay as they are, and there is one report, at the place
    of the statement. -/
structure Refused (target : Shape) (fields : Fields) (f : StagedField) : Prop where
  unchanged : (statements target fields [f]).value = fields
  reported : ∃ message, (statements target fields [f]).journal.diagnostics
    = [⟨.error, .typeMismatchOnApply, f.location.file, f.location.line, message⟩]

theorem refused {target : Shape} {fields : Fields} {f : StagedField}
    (htype : target.field? f.name = some type) (hplain : type.isPlain = true)
    (h : f.value.fitting? type = none) : Refused target fields f := by
  constructor
  · rw [value_statement htype, value_built _ _ hplain, h]
  · obtain ⟨message, hmessage⟩ :=
      exists_mismatch (fields.get? f.name) f.location hplain h
    refine ⟨message, ?_⟩
    rw [diagnostics_statement htype, hmessage]
    rfl

/-! ## All statements about a field -/

/-- What is written again and again is in the end what was written last. -/
theorem foldl_or {α β : Type} (write : α → Option β) (xs : List α) (start : Option β) :
    xs.foldl (fun old x => (write x).or old) start = ((xs.filterMap write).getLast?).or start := by
  induction xs generalizing start with
  | nil => rfl
  | cons x rest ih =>
      rw [List.foldl_cons, ih, List.filterMap_cons]
      cases write x with
      | none => rfl
      | some w =>
          rw [List.getLast?_cons]
          cases (rest.filterMap write).getLast? <;> rfl

/-- Of all the statements about a plain field, the last one that fits tells what it holds. -/
theorem foldl_built (hplain : type.isPlain = true) (staged : List StagedField) (start : Option Value) :
    staged.foldl (fun existing f => (built type existing f.location f.value).value.or existing) start
      = ((staged.filterMap (·.value.fitting? type)).getLast?).or start := by
  rw [← foldl_or]
  refine congrArg (List.foldl · start staged) (funext fun existing => funext fun f => ?_)
  rw [value_built existing f.location hplain]

end Application

namespace Session

open Application

/-! ## Sessions -/

/-- **THE LAST THAT FITS**: a field for a scalar or for a reference ends with the value of the last statement
    on the line that fits it, or with its default if none does.  Each statement that does not fit leaves all
    fields as they were, and is reported once, at its own place. -/
theorem last_fitting {declarations : List Descriptor} {converters : ConverterSet} {r : Registry}
    (hr : Registry.ofDeclarations declarations converters = .ok r) (options : Options) (store : Store)
    (requests : List Request) (documents : List Document) (preferred : String) :
    let s := (start r options store).answerAll requests
    let batch := s.staged documents preferred
    let c := s.catalogue batch
    ∀ d ∈ s.bound batch, d.isExcluded = false → d.isAbstract = false → ∃ h, d.handle = some h ∧
      ∀ name field, d.type.field? name = some field → field.type.isPlain = true →
        ((s.parse documents preferred).2.store.fields h).get? name = lastFitting field (c.stated d) ∧
          ∀ before f after, c.stated d = before ++ f :: after → f.name = name →
            f.value.fitting? field.type = none →
              let here := (statements d.type.shape d.type.defaults before).value
              Refused d.type.shape here f ∧
                ((c.lineage d).report d).journal.diagnostics
                    ++ (statements d.type.shape d.type.defaults before).journal.diagnostics
                    ++ (statements d.type.shape here [f]).journal.diagnostics
                    ++ (statements d.type.shape here after).journal.diagnostics
                  <:+: (s.parse documents preferred).2.diagnostics := by
  intro s batch c d hd hkept hconcrete
  have hregistry : s.registry = r := registry_answerAll r options store requests
  obtain ⟨h, hh, -⟩ := exists_handle (fresh_staged s documents preferred) hd hkept hconcrete
  refine ⟨h, hh, fun name field hfield hplain => ?_⟩
  have hname : field.name = name := (Descriptor.of_field? hfield).2
  constructor
  · rw [get?_parse hr hregistry hd hh hfield, foldl_built hplain, lastFitting, hname]
  · intro before f after hsplit hf hunfit here
    have htype : d.type.shape.field? f.name = some field.type := by
      rw [Descriptor.field?_shape, hf, hfield]
      rfl
    have hrefused : Refused d.type.shape here f := refused htype hplain hunfit
    refine ⟨hrefused, ?_⟩
    have hreports := reports_infix_diagnostics hd hh
    rw [reports_eq_statements hd hh, hsplit, diagnostics_statements_append, ← List.singleton_append,
      diagnostics_statements_append, hrefused.unchanged, ← List.append_assoc, ← List.append_assoc] at hreports
    exact hreports

/-! ### A horn between two lamps -/

def lampType : Descriptor :=
  (Descriptor.prototype "Lamp").declare ⟨"power", .scalar "int", some (.int 7)⟩

/-- A type that has nothing to do with lamps, but for the name of a field. -/
def hornType : Descriptor :=
  (Descriptor.prototype "Horn").declare ⟨"power", .scalar "string", none⟩

def lampRegistry : Registry where
  types := [lampType, hornType]
  converters := .builtin

/-- On the line of the last lamp, a horn comes after the lamp that tells the power. -/
def lampDocument : Document where
  name := "lamps"
  text := "<L Type=\"Lamp\"><Item Id=\"a\"><power>3</power><power>4</power></Item>" ++
    "<Item Id=\"b\" Type=\"Horn\" Inherits=\"a\"><power>hi</power></Item><Item Id=\"c\" Inherits=\"b\"/></L>"

private theorem built_lampRegistry :
    Registry.ofDeclarations [lampType, hornType] .builtin = .ok lampRegistry := by
  with_unfolding_all rfl

theorem lamp_keeps_power :
    let s := (start lampRegistry {} .empty).answerAll []
    let batch := s.staged [lampDocument] ""
    let c := s.catalogue batch
    ∃ d ∈ s.bound batch, d.id = "c" ∧ d.isExcluded = false ∧ d.isAbstract = false ∧
      (c.lineage d).ancestors.map (·.id) = ["b", "a"] ∧
      ∃ field, d.type.field? "power" = some field ∧ field.type.isPlain = true ∧
        (lastFitting field (c.stated d)).bind Value.asInt? = some 4 ∧
        (c.stated d).map (fun f => (f.name, (f.value.fitting? field.type).isSome))
          = [("power", true), ("power", true), ("power", false)] ∧
        ∃ h, d.handle = some h ∧
          ((s.parse [lampDocument] "").2.store.fields h).get? "power" = lastFitting field (c.stated d) ∧
            ∀ before f after, c.stated d = before ++ f :: after → f.name = "power" →
              f.value.fitting? field.type = none →
                let here := (statements d.type.shape d.type.defaults before).value
                Refused d.type.shape here f ∧
                  ((c.lineage d).report d).journal.diagnostics
                      ++ (statements d.type.shape d.type.defaults before).journal.diagnostics
                      ++ (statements d.type.shape here [f]).journal.diagnostics
                      ++ (statements d.type.shape here after).journal.diagnostics
                    <:+: (s.parse [lampDocument] "").2.diagnostics := by
  intro s batch c
  have hchecked : ((s.bound batch).any fun d => (d.id == "c" && !d.isExcluded && !d.isAbstract &&
      (c.lineage d).ancestors.map (·.id) == ["b", "a"]) && (d.type.field? "power").any fun field =>
        (field.type.isPlain && (lastFitting field (c.stated d)).bind Value.asInt? == some 4 &&
          (c.stated d).map (fun f => (f.name, (f.value.fitting? field.type).isSome))
            == [("power", true), ("power", true), ("power", false)])) = true := by
    decide +kernel
  obtain ⟨d, hd, hchecked⟩ := List.any_eq_true.mp hchecked
  obtain ⟨hfacts, hchecked⟩ := Bool.and_eq_true_iff.mp hchecked
  obtain ⟨field, hfield, hchecked⟩ := (Option.any_eq_true ..).mp hchecked
  simp only [Bool.and_eq_true, Bool.not_eq_true', beq_iff_eq] at hfacts hchecked
  obtain ⟨⟨⟨hid, hkept⟩, hconcrete⟩, hancestors⟩ := hfacts
  obtain ⟨⟨hplain, hlast⟩, hfits⟩ := hchecked
  obtain ⟨h, hh, hfinal⟩ :=
    last_fitting built_lampRegistry {} .empty [] [lampDocument] "" d hd hkept hconcrete
  exact ⟨d, hd, hid, hkept, hconcrete, hancestors, field, hfield, hplain, hlast, hfits, h, hh,
    hfinal "power" field hfield hplain⟩

end Session

end Archetype
