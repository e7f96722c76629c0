import Archetype.Proofs.Recognition
import Archetype.Proofs.Scanning

/-! # Documents, written and read back

    A tree can be written in many ways: with either kind of quotes, childless elements with one tag or two,
    and every character of a text or a value as it is or as a reference.  `ElementWritten e cs` holds of every
    one of them.  Reading a document that was written in any of these ways gives back the tree, but for the
    offsets, which belong to the writing (`parse_written`).

    The heart is that what is written of an element is read as the tokens of an element whatever is written
    after it (`ElementWritten.scans`), so that the readings of neighbours can be put one after the other.  The
    only part of a document that is ended by what comes after it is plain text, which is why no two plain
    texts may stand side by side. -/

namespace Archetype.Markup

open Text

/-! ## Trees that can be written -/

/-- Whether a run of character data can be written: plain text says something, and the body of a section
    does not hold what closes it. -/
def CharData.Writable (data : CharData) : Prop :=
  if data.cdata then ¬"]]>".toList <:+: data.value.toList else data.value ≠ ""

instance (data : CharData) : Decidable data.Writable :=
  inferInstanceAs (Decidable (if data.cdata then _ else _))

/-- Plain text is not followed by more of it. -/
def CharData.Separate (data : CharData) : List Node → Prop
  | .text other :: _ => data.cdata = true ∨ other.cdata = true
  | _ => True

mutual

/-- Whether an element can be written down so that it can be read back. -/
def Element.Writable : Element → Prop
  | ⟨name, attributes, children, _, _⟩ =>
    IsName name.toList ∧ (∀ a ∈ attributes, IsName a.name.toList) ∧ (attributes.map (·.name)).Nodup ∧
      Writables children

/-- Whether a row of nodes can be written down so that it can be read back. -/
def Writables : List Node → Prop
  | [] => True
  | .text data :: rest => data.Writable ∧ data.Separate rest ∧ Writables rest
  | .element e :: rest => e.Writable ∧ Writables rest

end

/-! ## Trees without their places -/

/-- An attribute without its place. -/
def Attribute.unplaced (a : Attribute) : Attribute :=
  { a with start := 0, stop := 0 }

/-- Character data without its place. -/
def CharData.unplaced (data : CharData) : CharData :=
  { data with start := 0 }

mutual

/-- An element without its place and those of what it holds. -/
def Element.unplaced : Element → Element
  | ⟨name, attributes, children, _, _⟩ =>
    ⟨name, attributes.map Attribute.unplaced, unplaced children, 0, 0⟩

/-- Nodes without their places. -/
def unplaced : List Node → List Node
  | [] => []
  | .text data :: rest => .text data.unplaced :: unplaced rest
  | .element e :: rest => .element e.unplaced :: unplaced rest

end

mutual

theorem Element.nesting_unplaced (e : Element) : e.unplaced.nesting = e.nesting := by
  match e with
  | ⟨_, _, children, _, _⟩ => exact levels_unplaced children

/-- How deep a tree nests does not depend on where it stands. -/
theorem levels_unplaced (nodes : List Node) : levels (unplaced nodes) = levels nodes := by
  match nodes with
  | [] => rfl
  | .text data :: rest => exact levels_unplaced rest
  | .element e :: rest =>
      have helement := Element.nesting_unplaced e
      have hrest := levels_unplaced rest
      simp only [unplaced, levels_element, helement, hrest]

end

theorem Element.nesting_eq_of_unplaced {e f : Element} (h : f.unplaced = e.unplaced) :
    f.nesting = e.nesting := by
  rw [← Element.nesting_unplaced f, h, Element.nesting_unplaced]

/-- What is asked of attributes does not ask where they stand. -/
theorem map_name_eq_of_unplaced {as bs : List Attribute}
    (h : bs.map Attribute.unplaced = as.map Attribute.unplaced) :
    bs.map (·.name) = as.map (·.name) := by
  have hnames := congrArg (List.map (·.name)) h
  rw [List.map_map, List.map_map] at hnames
  exact hnames

/-! ## The ways to write a tree -/

/-- One way to write a row of attributes: blanks before each of them, and its value in quotes. -/
inductive AttributesWritten : List Attribute → List Char → Prop
  | nil : AttributesWritten [] []
  | cons {a : Attribute} {as : List Attribute} {blanks value cs : List Char} {quote : Char}
      (hblanks : IsBlanks blanks) (hquote : quote = '"' ∨ quote = '\'')
      (hvalue : DataWritten (some quote) a.value.toList value) (hrest : AttributesWritten as cs) :
      AttributesWritten (a :: as) (blanks ++ (a.name.toList ++ '=' :: quote :: (value ++ quote :: cs)))

mutual

/-- One way to write an element. -/
inductive ElementWritten : Element → List Char → Prop
  | empty {name : String} {attributes : List Attribute} {start stop : Nat} {cs : List Char}
      (hattributes : AttributesWritten attributes cs) :
      ElementWritten ⟨name, attributes, [], start, stop⟩
        ('<' :: (name.toList ++ (cs ++ ['/', '>'])))
  | filled {name : String} {attributes : List Attribute} {children : List Node} {start stop : Nat}
      {cs ds : List Char} (hattributes : AttributesWritten attributes cs)
      (hcontent : ContentWritten children ds) :
      ElementWritten ⟨name, attributes, children, start, stop⟩
        ('<' :: (name.toList ++ (cs ++ '>' :: (ds ++ '<' :: '/' :: (name.toList ++ ['>'])))))

/-- One way to write a row of nodes. -/
inductive ContentWritten : List Node → List Char → Prop
  | nil : ContentWritten [] []
  | text {data : CharData} {rest : List Node} {cs ds : List Char} (hplain : data.cdata = false)
      (hdata : DataWritten none data.value.toList cs) (hrest : ContentWritten rest ds) :
      ContentWritten (.text data :: rest) (cs ++ ds)
  | cdata {data : CharData} {rest : List Node} {ds : List Char} (hcdata : data.cdata = true)
      (hrest : ContentWritten rest ds) :
      ContentWritten (.text data :: rest)
        ("<![CDATA[".toList ++ (data.value.toList ++ ("]]>".toList ++ ds)))
  | element {e : Element} {rest : List Node} {cs ds : List Char} (helement : ElementWritten e cs)
      (hrest : ContentWritten rest ds) : ContentWritten (.element e :: rest) (cs ++ ds)

end

section Exists

variable {quote : Option Char}

/-- What may not stand as it is has a name. -/
theorem exists_charWritten (hquote : ∀ q ∈ quote, q = '"' ∨ q = '\'') (c : Char) :
    ∃ cs, CharWritten quote c cs := by
  by_cases hamp : c = '&'
  · subst hamp
    exact ⟨_, .entity (show ('&', "amp") ∈ entities by decide)⟩
  by_cases hopen : c = '<'
  · subst hopen
    exact ⟨_, .entity (show ('<', "lt") ∈ entities by decide)⟩
  by_cases hsame : quote = some c
  · rcases hquote c hsame with rfl | rfl
    · exact ⟨_, .entity (show ('"', "quot") ∈ entities by decide)⟩
    · exact ⟨_, .entity (show ('\'', "apos") ∈ entities by decide)⟩
  · exact ⟨_, .literal hamp hopen hsame⟩

theorem exists_dataWritten (hquote : ∀ q ∈ quote, q = '"' ∨ q = '\'') (value : List Char) :
    ∃ cs, DataWritten quote value cs := by
  induction value with
  | nil => exact ⟨[], .nil⟩
  | cons c rest ih =>
      obtain ⟨cs, hc⟩ := exists_charWritten hquote c
      obtain ⟨ds, hrest⟩ := ih
      exact ⟨cs ++ ds, .cons hc hrest⟩

theorem exists_attributesWritten (as : List Attribute) : ∃ cs, AttributesWritten as cs := by
  induction as with
  | nil => exact ⟨[], .nil⟩
  | cons a rest ih =>
      have hquote : ∀ q ∈ some '"', q = '"' ∨ q = '\'' := by simp
      obtain ⟨value, hvalue⟩ := exists_dataWritten hquote a.value.toList
      obtain ⟨cs, hrest⟩ := ih
      exact ⟨_, .cons (by decide : IsBlanks [' ']) (Or.inl rfl) hvalue hrest⟩

end Exists

mutual

/-- There is a way to write every tree. -/
theorem Element.exists_written (e : Element) : ∃ cs, ElementWritten e cs := by
  match e with
  | ⟨name, attributes, children, start, stop⟩ =>
      obtain ⟨cs, hattributes⟩ := exists_attributesWritten attributes
      obtain ⟨ds, hcontent⟩ := exists_contentWritten children
      exact ⟨_, .filled hattributes hcontent⟩

theorem exists_contentWritten (nodes : List Node) : ∃ cs, ContentWritten nodes cs := by
  match nodes with
  | [] => exact ⟨[], .nil⟩
  | .text data :: rest =>
      obtain ⟨ds, hrest⟩ := exists_contentWritten rest
      cases hcdata : data.cdata with
      | true => exact ⟨_, .cdata hcdata hrest⟩
      | false =>
          have hquote : ∀ q ∈ (none : Option Char), q = '"' ∨ q = '\'' := nofun
          obtain ⟨cs, hdata⟩ := exists_dataWritten hquote data.value.toList
          exact ⟨cs ++ ds, .text hcdata hdata hrest⟩
  | .element e :: rest =>
      obtain ⟨cs, helement⟩ := Element.exists_written e
      obtain ⟨ds, hrest⟩ := exists_contentWritten rest
      exact ⟨cs ++ ds, .element helement hrest⟩

end

/-! ## Reading what was written -/

section Reading

variable {cs : List Char}

theorem IsName.ne_nil (h : IsName cs) (rest : List Char) : cs ++ rest ≠ [] := by
  obtain ⟨c, more, rfl, -, -⟩ := h.exists_cons
  exact List.cons_ne_nil _ _

theorem IsName.stopsAt_isBlank (h : IsName cs) (rest : List Char) : StopsAt isBlank (cs ++ rest) := by
  obtain ⟨c, more, rfl, hstart, -⟩ := h.exists_cons
  simpa using isBlank_of_isNameStart hstart

theorem scans_name {name : String} (hname : IsName name.toList) {rest : List Char}
    (hrest : StopsAt isNameChar rest) (position : Nat) :
    ∃ stop, Scans ⟨name.toList ++ rest, position, .tag⟩ [⟨.name name, position, stop⟩]
      ⟨rest, stop, .tag⟩ := by
  have hread := scan_name hname hrest
  rw [String.ofList_toList] at hread
  exact Scans.single hread (hname.ne_nil _) rfl position

/-- An attribute, after blanks, is read as a name, an equals sign and a value. -/
theorem scans_attribute {name : String} {blanks value written : List Char} {quote : Char}
    (hname : IsName name.toList) (hblanks : IsBlanks blanks) (hquote : quote = '"' ∨ quote = '\'')
    (hvalue : DataWritten (some quote) value written) (rest : List Char) (position : Nat) :
    ∃ start p q stop, Scans
      ⟨blanks ++ (name.toList ++ '=' :: quote :: (written ++ quote :: rest)), position, .tag⟩
      [⟨.name name, start, p⟩, ⟨.equals, p, q⟩, ⟨.attrValue (String.ofList value), q, stop⟩]
      ⟨rest, stop, .tag⟩ := by
  have hends : StopsAt isNameChar ('=' :: quote :: (written ++ quote :: rest)) :=
    stopsAt_cons.mpr (by decide +kernel)
  obtain ⟨start, hskip⟩ := Scans.skip (scan_blanks hblanks (hname.stopsAt_isBlank _))
    (List.append_ne_nil_of_left_ne_nil hblanks.1 _) rfl position
  obtain ⟨p, hnamed⟩ := scans_name hname hends start
  obtain ⟨q, hequals⟩ := Scans.single scan_equals (List.cons_ne_nil _ _) rfl p
  obtain ⟨stop, hquoted⟩ := Scans.single (scan_value hquote hvalue) (List.cons_ne_nil _ _) rfl q
  exact ⟨start, p, q, stop, hskip.trans (hnamed.trans (hequals.trans hquoted))⟩

/-- A row of attributes is read as one, and nothing that comes after it. -/
theorem AttributesWritten.scans {as : List Attribute} (h : AttributesWritten as cs)
    (hnames : ∀ a ∈ as, IsName a.name.toList) (rest : List Char) (position : Nat) :
    ∃ ts bs stop, DerivesAttributes ts bs ∧ bs.map Attribute.unplaced = as.map Attribute.unplaced ∧
      Scans ⟨cs ++ rest, position, .tag⟩ ts ⟨rest, stop, .tag⟩ := by
  induction h generalizing position with
  | nil => exact ⟨[], [], position, .nil, rfl, .refl _⟩
  | @cons a as blanks value cs quote hblanks hquote hvalue _ ih =>
      obtain ⟨hname, hmore⟩ := List.forall_mem_cons.mp hnames
      obtain ⟨start, p, q, stop, hfirst⟩ :=
        scans_attribute hname hblanks hquote hvalue (cs ++ rest) position
      obtain ⟨ts, bs, last, hderives, hsame, hrest⟩ := ih hmore stop
      rw [String.ofList_toList] at hfirst
      refine ⟨⟨.name a.name, start, p⟩ :: ⟨.equals, p, q⟩ :: ⟨.attrValue a.value, q, stop⟩ :: ts,
        ⟨a.name, a.value, start, stop⟩ :: bs, last, .cons rfl rfl rfl hderives, ?_, ?_⟩
      · rw [List.map_cons, List.map_cons, hsame]
        rfl
      · simpa using hfirst.trans hrest

/-- What is written after a row of attributes or in place of one does not go on with a name. -/
theorem AttributesWritten.stopsAt {as : List Attribute} (h : AttributesWritten as cs) {rest : List Char}
    (hrest : StopsAt isNameChar rest) : StopsAt isNameChar (cs ++ rest) := by
  cases h with
  | nil => exact hrest
  | @cons _ _ blanks _ _ _ hblanks =>
      obtain ⟨hne, hall⟩ := hblanks
      cases blanks with
      | nil => exact absurd rfl hne
      | cons c more => simpa using isNameChar_of_isBlank (List.all_eq_true.mp hall c List.mem_cons_self)

/-- The first tag of an element up to the mark that ends it is read as one. -/
theorem scans_tag {name : String} {attributes : List Attribute} (hname : IsName name.toList)
    (hnames : ∀ a ∈ attributes, IsName a.name.toList) (hdistinct : (attributes.map (·.name)).Nodup)
    (h : AttributesWritten attributes cs) {rest : List Char} (hrest : StopsAt isNameChar rest)
    (position : Nat) :
    ∃ ts bs stop, DerivesTag ts name bs position ∧
      bs.map Attribute.unplaced = attributes.map Attribute.unplaced ∧
      Scans ⟨'<' :: (name.toList ++ (cs ++ rest)), position, .content⟩ ts ⟨rest, stop, .tag⟩ := by
  obtain ⟨c, more, hcs, hstart, -⟩ := hname.exists_cons
  have hmarks := not_mem_marks_of_isNameStart hstart
  simp only [marks, List.mem_cons, List.not_mem_nil, or_false, not_or] at hmarks
  have hopen : scan .content ('<' :: c :: (more ++ (cs ++ rest))) = _ :=
    scan_tagOpen hmarks.2.1 hmarks.2.2.2.2.2.1 hmarks.2.2.2.2.2.2.1
  rw [← List.cons_append, ← hcs] at hopen
  obtain ⟨p, hopening⟩ := Scans.single hopen (List.cons_ne_nil _ _) rfl position
  obtain ⟨q, hnamed⟩ := scans_name hname (h.stopsAt hrest) p
  obtain ⟨ts, bs, stop, hderives, hsame, hattributes⟩ := h.scans hnames rest q
  have hdistinct' : (bs.map (·.name)).Nodup := by
    rw [map_name_eq_of_unplaced hsame]
    exact hdistinct
  exact ⟨_, bs, stop, .mk rfl rfl hderives hdistinct', hsame,
    hopening.trans (hnamed.trans hattributes)⟩

/-- The last tag of an element is read as one. -/
theorem scans_lastTag {name : String} (hname : IsName name.toList) (rest : List Char) (position : Nat) :
    ∃ p q stop, Scans ⟨'<' :: '/' :: (name.toList ++ '>' :: rest), position, .content⟩
      [⟨.closeTagOpen, position, p⟩, ⟨.name name, p, q⟩, ⟨.tagClose, q, stop⟩] ⟨rest, stop, .content⟩ := by
  have hends : StopsAt isNameChar ('>' :: rest) := stopsAt_cons.mpr (by decide +kernel)
  obtain ⟨p, hopening⟩ := Scans.single scan_closeTagOpen (List.cons_ne_nil _ _) rfl position
  obtain ⟨q, hnamed⟩ := scans_name hname hends p
  obtain ⟨stop, hclosing⟩ := Scans.single scan_tagClose (List.cons_ne_nil _ _) rfl q
  exact ⟨p, q, stop, hopening.trans (hnamed.trans hclosing)⟩

/-- Plain text that stands apart is followed by a `<`. -/
theorem ContentWritten.stopsAt {data : CharData} {nodes : List Node} (h : ContentWritten nodes cs)
    (hplain : data.cdata = false) (hseparate : data.Separate nodes) {rest : List Char}
    (hrest : StopsAt (· != '<') rest) : StopsAt (· != '<') (cs ++ rest) := by
  cases h with
  | nil => exact hrest
  | text hother =>
      rcases hseparate with hcdata | hcdata
      · rw [hplain] at hcdata
        cases hcdata
      · rw [hother] at hcdata
        cases hcdata
  | cdata => exact stopsAt_cons.mpr rfl
  | element helement =>
      cases helement with
      | empty => exact stopsAt_cons.mpr rfl
      | filled => exact stopsAt_cons.mpr rfl

end Reading

mutual

/-- What is written of an element is read as one, whatever is written after it. -/
theorem ElementWritten.scans {e : Element} {cs : List Char} (h : ElementWritten e cs) (he : e.Writable)
    (rest : List Char) (position : Nat) :
    ∃ ts f stop, DerivesElement ts f ∧ f.unplaced = e.unplaced ∧
      Scans ⟨cs ++ rest, position, .content⟩ ts ⟨rest, stop, .content⟩ := by
  cases h with
  | @empty name attributes start stop cs hattributes =>
      obtain ⟨hname, hnames, hdistinct, -⟩ := he
      have hslash : StopsAt isNameChar ('/' :: '>' :: rest) := stopsAt_cons.mpr (by decide +kernel)
      obtain ⟨ts, bs, p, htag, hsame, hfirst⟩ :=
        scans_tag hname hnames hdistinct hattributes hslash position
      obtain ⟨q, hclosing⟩ := Scans.single scan_emptyTagClose (List.cons_ne_nil _ _) rfl p
      refine ⟨ts ++ [⟨.emptyTagClose, p, q⟩], ⟨name, bs, [], position, q⟩, q, .empty htag rfl, ?_, ?_⟩
      · simp only [Element.unplaced, hsame]
      · simpa using hfirst.trans hclosing
  | @filled name attributes children start stop cs ds hattributes hcontent =>
      obtain ⟨hname, hnames, hdistinct, hchildren⟩ := he
      have hclose : StopsAt isNameChar ('>' :: (ds ++ '<' :: '/' :: (name.toList ++ '>' :: rest))) :=
        stopsAt_cons.mpr (by decide +kernel)
      obtain ⟨ts, bs, p, htag, hsame, hfirst⟩ :=
        scans_tag hname hnames hdistinct hattributes hclose position
      obtain ⟨q, hmiddle⟩ := Scans.single scan_tagClose (List.cons_ne_nil _ _) rfl p
      have hopen : StopsAt (· != '<') ('<' :: '/' :: (name.toList ++ '>' :: rest)) :=
        stopsAt_cons.mpr rfl
      obtain ⟨us, nodes, r, hderives, hnodes, hinside⟩ :=
        ContentWritten.scans hcontent hchildren hopen q
      obtain ⟨v, w, last, hlast⟩ := scans_lastTag hname rest r
      have helement : DerivesElement (ts ++ ⟨.tagClose, p, q⟩ ::
          (us ++ [⟨.closeTagOpen, r, v⟩, ⟨.name name, v, w⟩, ⟨.tagClose, w, last⟩]))
          ⟨name, bs, nodes, position, last⟩ := .filled htag rfl hderives rfl rfl rfl
      refine ⟨_, _, last, helement, ?_, ?_⟩
      · simp only [Element.unplaced, hsame, hnodes]
      · simpa using hfirst.trans (hmiddle.trans (hinside.trans hlast))

/-- What is written of a row of nodes is read as one, in front of a `<`. -/
theorem ContentWritten.scans {nodes : List Node} {cs : List Char} (h : ContentWritten nodes cs)
    (hnodes : Writables nodes) {rest : List Char} (hrest : StopsAt (· != '<') rest) (position : Nat) :
    ∃ ts others stop, DerivesContent ts others ∧ unplaced others = unplaced nodes ∧
      Scans ⟨cs ++ rest, position, .content⟩ ts ⟨rest, stop, .content⟩ := by
  cases h with
  | nil => exact ⟨[], [], position, .nil, rfl, .refl _⟩
  | @text data nodes cs ds hplain hdata hmore =>
      obtain ⟨hvalue, hseparate, hnodes⟩ := hnodes
      rw [CharData.Writable, if_neg (by simp [hplain])] at hvalue
      have hread := scan_text hdata (by simpa using hvalue) (hmore.stopsAt hplain hseparate hrest)
      rw [String.ofList_toList] at hread
      have hne : cs ++ (ds ++ rest) ≠ [] :=
        List.append_ne_nil_of_left_ne_nil (hdata.ne_nil (by simpa using hvalue)) _
      obtain ⟨p, hfirst⟩ := Scans.single hread hne rfl position
      obtain ⟨ts, others, stop, hderives, hsame, hscans⟩ := ContentWritten.scans hmore hnodes hrest p
      refine ⟨⟨.text data.value, position, p⟩ :: ts, .text ⟨data.value, position, false⟩ :: others, stop,
        .text rfl hderives, ?_, ?_⟩
      · simp [unplaced, CharData.unplaced, hsame, hplain]
      · simpa using hfirst.trans hscans
  | @cdata data nodes ds hcdata hmore =>
      obtain ⟨hvalue, -, hnodes⟩ := hnodes
      rw [CharData.Writable, if_pos hcdata] at hvalue
      have hread : scan .content
          ("<![CDATA[".toList ++ (data.value.toList ++ ("]]>".toList ++ (ds ++ rest)))) = _ :=
        scan_cdata hvalue
      rw [String.ofList_toList] at hread
      obtain ⟨p, hfirst⟩ := Scans.single hread (List.cons_ne_nil _ _) rfl position
      obtain ⟨ts, others, stop, hderives, hsame, hscans⟩ := ContentWritten.scans hmore hnodes hrest p
      refine ⟨⟨.cdata data.value, position, p⟩ :: ts, .text ⟨data.value, position, true⟩ :: others, stop,
        .cdata rfl hderives, ?_, ?_⟩
      · simp [unplaced, CharData.unplaced, hsame, hcdata]
      · simpa using hfirst.trans hscans
  | @element e nodes cs ds helement hmore =>
      obtain ⟨he, hnodes⟩ := hnodes
      obtain ⟨ts, f, p, hderives, hsame, hfirst⟩ :=
        ElementWritten.scans helement he (ds ++ rest) position
      obtain ⟨us, others, stop, hderives', hsame', hscans⟩ := ContentWritten.scans hmore hnodes hrest p
      refine ⟨_, _, stop, .element hderives hderives', ?_, ?_⟩
      · simp only [unplaced, hsame, hsame']
      · simpa using hfirst.trans hscans

end

theorem ElementWritten.eq_cons {e : Element} {cs : List Char} (h : ElementWritten e cs) :
    ∃ rest, cs = '<' :: rest := by
  cases h with
  | empty => exact ⟨_, rfl⟩
  | filled => exact ⟨_, rfl⟩

/-- The tokens of a text that holds what is written of an element. -/
theorem ElementWritten.derives {e : Element} {cs : List Char} (h : ElementWritten e cs)
    (he : e.Writable) :
    ∃ root, DerivesDocument (Parser.significant (String.ofList cs)) root ∧ root.unplaced = e.unplaced := by
  obtain ⟨ts, root, stop, hderives, hsame, hscans⟩ := h.scans he [] 0
  rw [List.append_nil] at hscans
  have hfront : cs.head? = some '<' := by
    obtain ⟨rest, rfl⟩ := h.eq_cons
    rfl
  exact ⟨root, hscans.derivesDocument hfront hderives, hsame⟩

/-- **READ BACK**: a tree that can be written and does not nest too deeply is read back from whatever is
    written of it, with its places in the text. -/
theorem parse_written {e : Element} {cs : List Char} (he : e.Writable) (hdepth : e.nesting ≤ maxDepth)
    (h : ElementWritten e cs) :
    ∃ root, parse (String.ofList cs) = .ok root ∧ root.unplaced = e.unplaced := by
  obtain ⟨root, hdocument, hsame⟩ := h.derives he
  have hroot : root.nesting ≤ maxDepth := by
    rw [Element.nesting_eq_of_unplaced hsame]
    exact hdepth
  exact ⟨root, (parse_eq_ok_iff _ root).mpr ⟨hdocument, hroot⟩, hsame⟩

/-! ### A card with everything on it -/

/-- A value with both quotes, text with a semicolon that ends no reference, a section that ends in a bracket
    and a childless element. -/
def card : Element where
  name := "r"
  attributes := [⟨"k", "a\"\'é", 0, 0⟩]
  children := [.text ⟨"x;<", 0, false⟩, .text ⟨"&lt;]]", 0, true⟩, .element ⟨"n-1", [], [], 0, 0⟩,
    .text ⟨" ", 0, false⟩]
  start := 0
  stop := 0

theorem card_read_back :
    card.Writable ∧ ∃ root,
      parse "<r\tk='a\"&apos;&#x000E9;'>x;&#0060;<![CDATA[&lt;]]]]><n-1></n-1>&#32;</r>" = .ok root ∧
        root.unplaced = card.unplaced := by
  have hcard : card.Writable :=
    ⟨by decide +kernel, by decide +kernel, by decide +kernel, by decide +kernel, Or.inr rfl,
      by decide +kernel, trivial, ⟨by decide +kernel, by decide +kernel, by decide +kernel, trivial⟩,
      by decide +kernel, trivial, trivial⟩
  have hletter : NumeralWritten 16 'é'.toNat "000E9".toList :=
    ⟨[0, 0, 0, 14, 9], by decide, .cons (.lower (by decide)) (.cons (.lower (by decide))
      (.cons (.lower (by decide)) (.cons (.upper (by decide)) (.cons (.lower (by decide)) .nil)))), rfl⟩
  have hopen : NumeralWritten 10 '<'.toNat "0060".toList :=
    ⟨[0, 0, 6, 0], by decide, .cons (.lower (by decide)) (.cons (.lower (by decide))
      (.cons (.lower (by decide)) (.cons (.lower (by decide)) .nil))), rfl⟩
  have hspace : NumeralWritten 10 ' '.toNat "32".toList :=
    ⟨[3, 2], by decide, .cons (.lower (by decide)) (.cons (.lower (by decide)) .nil), rfl⟩
  have hvalue : DataWritten (some '\'') "a\"\'é".toList "a\"&apos;&#x000E9;".toList :=
    .cons (.literal (by decide) (by decide) (by decide)) (.cons (.literal (by decide) (by decide) (by decide))
      (.cons (.entity (show ('\'', "apos") ∈ entities by decide))
        (.cons (.hexadecimal (Or.inl rfl) hletter) .nil)))
  have htext : DataWritten none "x;<".toList "x;&#0060;".toList :=
    .cons (.literal (by decide) (by decide) (by decide)) (.cons (.literal (by decide) (by decide) (by decide))
      (.cons (.decimal hopen) .nil))
  have hblank : DataWritten none " ".toList "&#32;".toList := .cons (.decimal hspace) .nil
  have hattributes : AttributesWritten card.attributes "\tk='a\"&apos;&#x000E9;'".toList :=
    .cons (a := ⟨"k", "a\"\'é", 0, 0⟩) (by decide : IsBlanks ['\t']) (Or.inr rfl) hvalue .nil
  have hlast : ContentWritten [.text ⟨" ", 0, false⟩] ("&#32;".toList ++ []) := .text rfl hblank .nil
  have hchild : ElementWritten ⟨"n-1", [], [], 0, 0⟩ "<n-1></n-1>".toList := .filled .nil .nil
  have hsection : ContentWritten _ _ :=
    @ContentWritten.cdata ⟨"&lt;]]", 0, true⟩ _ _ rfl (.element hchild hlast)
  have hcontent : ContentWritten card.children ("x;&#0060;".toList ++ _) := .text rfl htext hsection
  have hwritten : ElementWritten card
      "<r\tk='a\"&apos;&#x000E9;'>x;&#0060;<![CDATA[&lt;]]]]><n-1></n-1>&#32;</r>".toList :=
    .filled hattributes hcontent
  have hread := parse_written hcard (by decide) hwritten
  rw [String.ofList_toList] at hread
  exact ⟨hcard, hread⟩

end Archetype.Markup
