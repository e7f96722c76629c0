import Archetype.Proofs.Grammar
import Archetype.Proofs.Scanning

/-! # The documents that are accepted

    A text is accepted exactly if its tokens are those of a document that does not nest too deeply, and what
    it is read as is the tree they stand for.

    The machine reads token after token and keeps the elements still open, so each half is one fact about a
    step.  From the tokens of a document to its acceptance: every rule of the grammar moves the machine on
    (`Moves`), whatever is open around it.  And back: what the machine has read is at every moment the
    beginning of a document, with the open elements saying how far it has come (`Reads`), which the first
    token keeps and every further one (`Reads.step`). -/

namespace Archetype.Text

/-- A text trims to nothing exactly if it holds blanks alone. -/
theorem trimmed_eq_empty_iff (s : String) : trimmed s = "" ↔ allBlank s = true := by
  rw [trimmed, String.ofList_eq_empty_iff, trim, List.reverse_eq_nil_iff, List.dropWhile_eq_nil_iff,
    allBlank, List.all_eq_true]
  constructor
  · intro h c hc
    rw [← List.takeWhile_append_dropWhile (p := isBlank) (l := s.toList)] at hc
    rcases List.mem_append.mp hc with hleading | hrest
    · exact List.mem_takeWhile_imp hleading
    · exact h c (List.mem_reverse.mpr hrest)
  · intro h c hc
    exact h c ((List.dropWhile_sublist _).subset (List.mem_reverse.mp hc))

end Archetype.Text

namespace Archetype.Markup

theorem Token.IsBlank.allBlank {t : Token} (h : t.IsBlank) :
    ∃ value, t.lexeme = .text value ∧ Text.allBlank value = true := by
  obtain ⟨value, ht, hvalue⟩ := h
  exact ⟨value, ht, (Text.trimmed_eq_empty_iff value).mp hvalue⟩

namespace State

/-- The state after an element is complete. -/
def completed : List OpenElement → Nat → Element → State
  | [], depth, e => ⟨.epilog e, [], depth⟩
  | parent :: ancestors, depth, e => ⟨.content (parent.addChild (.element e)), ancestors, depth - 1⟩

@[simp] theorem unexpected_ne_next (s next : State) (t : Token) (expected : Expectation) :
    s.unexpected t expected ≠ .next next := nofun

@[simp] theorem missing_ne_next (s next : State) (t : Token) (expected : Lexeme) :
    s.missing t expected ≠ .next next := by
  rw [missing]
  split <;> nofun

@[simp] theorem unexpected_ne_accept (s : State) (t : Token) (expected : Expectation) (root : Element) :
    s.unexpected t expected ≠ .accept root := nofun

@[simp] theorem missing_ne_accept (s : State) (t : Token) (expected : Lexeme) (root : Element) :
    s.missing t expected ≠ .accept root := by
  rw [missing]
  split <;> nofun

theorem complete_eq (s : State) (e : Element) :
    s.complete e = .next (completed s.ancestors s.depth e) := by
  obtain ⟨phase, ancestors, depth⟩ := s
  cases ancestors <;> rfl

end State

/-! ## From the grammar to the machine -/

/-- Moves on a row of tokens, none of which ends the run. -/
inductive Moves : State → List Token → State → Prop
  | refl (s : State) : Moves s [] s
  | cons {s next last : State} {t : Token} {ts : List Token} (hstep : s.step t = .next next)
      (hrest : Moves next ts last) : Moves s (t :: ts) last

namespace Moves

variable {s next last : State} {t : Token} {ts us : List Token}

theorem single (hstep : s.step t = .next next) : Moves s [t] next := .cons hstep (.refl next)

theorem trans (h : Moves s ts next) (k : Moves next us last) : Moves s (ts ++ us) last := by
  induction h with
  | refl => exact k
  | cons hstep _ ih => exact .cons hstep (ih k)

theorem run_eq (h : Moves s ts last) (size : Nat) (us : List Token) :
    run size s (ts ++ us) = run size last us := by
  induction h with
  | refl => rfl
  | cons hstep _ ih =>
      rw [List.cons_append, run, hstep]
      exact ih

end Moves

section Complete

variable {ts : List Token} {ancestors : List OpenElement} {depth : Nat}

theorem moves_attributes {as : List Attribute} (h : DerivesAttributes ts as) (e : OpenElement)
    (hdistinct : ((e.attributes ++ as).map (·.name)).Nodup) :
    Moves ⟨.tag e, ancestors, depth⟩ ts
      ⟨.tag { e with attributes := e.attributes ++ as }, ancestors, depth⟩ := by
  induction h generalizing e with
  | nil =>
      rw [List.append_nil]
      exact .refl _
  | @cons name equals value n v ts as hname hequals hvalue hrest ih =>
      have hnew : e.hasAttribute n = false := by
        rw [OpenElement.hasAttribute, List.any_eq_false]
        intro a ha hsame
        rw [List.map_append, List.nodup_append] at hdistinct
        exact hdistinct.2.2 a.name (List.mem_map_of_mem ha) n (by simp) (beq_iff_eq.mp hsame)
      have hmore := ih (e.addAttribute ⟨n, v, name.start, value.stop⟩)
        (by simpa [OpenElement.addAttribute] using hdistinct)
      rw [OpenElement.addAttribute, List.append_assoc, List.singleton_append] at hmore
      have hname' : State.step ⟨.tag e, ancestors, depth⟩ name
          = .next ⟨.attributeName e n name.start, ancestors, depth⟩ := by
        simp [State.step, hname, State.goto]
      have hequals' : State.step ⟨.attributeName e n name.start, ancestors, depth⟩ equals
          = .next ⟨.attributeEquals e n name.start, ancestors, depth⟩ := by
        simp [State.step, hequals, State.goto]
      refine .cons hname' (.cons hequals' (.cons ?_ hmore))
      simp [State.step, hvalue, hnew, State.goto, OpenElement.addAttribute]

/-- A state in which an element may begin, with these elements open around it. -/
def Begins (s : State) (ancestors : List OpenElement) (depth : Nat) : Prop :=
  ∀ t : Token, t.lexeme = .tagOpen → s.step t = .next ⟨.opening t.start, ancestors, depth⟩

theorem begins_prolog : Begins ⟨.prolog, ancestors, depth⟩ ancestors depth := by
  intro t ht
  simp [State.step, ht, State.goto]

theorem begins_content (e : OpenElement) (hdepth : depth + 1 ≤ maxDepth) :
    Begins ⟨.content e, ancestors, depth⟩ (e :: ancestors) (depth + 1) := by
  intro t ht
  simp only [State.step, State.stepContent, ht]
  rw [if_neg (Nat.not_lt.mpr hdepth)]

theorem moves_tag {n : String} {as : List Attribute} {start : Nat} (h : DerivesTag ts n as start)
    {s : State} (hs : Begins s ancestors depth) :
    Moves s ts ⟨.tag ⟨n, as, [], start⟩, ancestors, depth⟩ := by
  cases h with
  | @mk opening name _ ts as hopening hname hattributes hdistinct =>
      refine .cons (hs opening hopening) (.cons ?_ (moves_attributes hattributes
        (.named n opening.start) hdistinct))
      simp [State.step, hname, State.goto]

mutual

/-- The tokens of an element lead to the state after it. -/
theorem moves_element {ts : List Token} {e : Element} (h : DerivesElement ts e) {s : State}
    {ancestors : List OpenElement} {depth : Nat} (hs : Begins s ancestors depth)
    (hdepth : depth + e.nesting ≤ maxDepth) : Moves s ts (State.completed ancestors depth e) := by
  cases h with
  | empty htag hclosing =>
      refine (moves_tag htag hs).trans (.single ?_)
      simp [State.step, hclosing, State.complete_eq, OpenElement.close]
  | @filled ts us n as children start middle opening name closing htag hmiddle hcontent hopening hname
      hclosing =>
      have hinside := moves_content hcontent ⟨n, as, [], start⟩ ancestors hdepth
      have hmiddle' : State.step ⟨.tag ⟨n, as, [], start⟩, ancestors, depth⟩ middle
          = .next ⟨.content ⟨n, as, [], start⟩, ancestors, depth⟩ := by
        simp [State.step, hmiddle, State.goto]
      have hopening' : State.step ⟨.content ⟨n, as, children, start⟩, ancestors, depth⟩ opening
          = .next ⟨.closing ⟨n, as, children, start⟩ opening.start, ancestors, depth⟩ := by
        simp [State.step, State.stepContent, hopening, State.goto]
      have hname' : State.step ⟨.closing ⟨n, as, children, start⟩ opening.start, ancestors, depth⟩ name
          = .next ⟨.closingName ⟨n, as, children, start⟩ opening.start n, ancestors, depth⟩ := by
        simp [State.step, hname, State.goto]
      have hclosing' :
          State.step ⟨.closingName ⟨n, as, children, start⟩ opening.start n, ancestors, depth⟩ closing
            = .next (State.completed ancestors depth ⟨n, as, children, start, closing.stop⟩) := by
        simp [State.step, hclosing, State.complete_eq, OpenElement.close]
      exact (moves_tag htag hs).trans
        (.cons hmiddle' (hinside.trans (.cons hopening' (.cons hname' (.single hclosing')))))

/-- The tokens of children are added to the element that is open. -/
theorem moves_content {ts : List Token} {nodes : List Node} (h : DerivesContent ts nodes)
    (e : OpenElement) (ancestors : List OpenElement) {depth : Nat}
    (hdepth : depth + levels nodes ≤ maxDepth) :
    Moves ⟨.content e, ancestors, depth⟩ ts
      ⟨.content { e with children := e.children ++ nodes }, ancestors, depth⟩ := by
  cases h with
  | nil =>
      rw [List.append_nil]
      exact .refl _
  | @text t value ts nodes ht hrest =>
      have hmore := moves_content hrest (e.addChild (.text ⟨value, t.start, false⟩)) ancestors hdepth
      rw [OpenElement.addChild, List.append_assoc, List.singleton_append] at hmore
      refine .cons ?_ hmore
      simp [State.step, State.stepContent, ht, State.goto, OpenElement.addChild]
  | @cdata t body ts nodes ht hrest =>
      have hmore := moves_content hrest (e.addChild (.text ⟨body, t.start, true⟩)) ancestors hdepth
      rw [OpenElement.addChild, List.append_assoc, List.singleton_append] at hmore
      refine .cons ?_ hmore
      simp [State.step, State.stepContent, ht, State.goto, OpenElement.addChild]
  | @element ts us child nodes helement hrest =>
      rw [levels_element] at hdepth
      have hbegins : Begins ⟨.content e, ancestors, depth⟩ (e :: ancestors) (depth + 1) :=
        begins_content e (by omega)
      have hchild := moves_element helement hbegins (by omega)
      have hlevels : depth + levels nodes ≤ maxDepth := by omega
      have hmore := moves_content hrest (e.addChild (.element child)) ancestors hlevels
      rw [OpenElement.addChild, List.append_assoc, List.singleton_append] at hmore
      exact hchild.trans hmore

end

theorem moves_blank {s : State} (hs : ∀ t : Token, t.IsBlank → s.step t = .next s)
    (h : ∀ t ∈ ts, t.IsBlank) : Moves s ts s := by
  induction ts with
  | nil => exact .refl s
  | cons t rest ih =>
      exact .cons (hs t (h t List.mem_cons_self)) (ih fun u hu => h u (List.mem_cons_of_mem _ hu))

theorem step_prolog_blank {t : Token} (h : t.IsBlank) :
    State.step ⟨.prolog, ancestors, depth⟩ t = .next ⟨.prolog, ancestors, depth⟩ := by
  obtain ⟨value, ht, hvalue⟩ := h.allBlank
  simp [State.step, ht, hvalue]

theorem step_epilog_blank {root : Element} {t : Token} (h : t.IsBlank) :
    State.step ⟨.epilog root, ancestors, depth⟩ t = .next ⟨.epilog root, ancestors, depth⟩ := by
  obtain ⟨value, ht, hvalue⟩ := h.allBlank
  simp [State.step, ht, hvalue]

/-- **COMPLETE**: the tokens of a document that does not nest too deeply are accepted. -/
theorem run_document {root : Element} (h : DerivesDocument ts root) (hdepth : root.nesting ≤ maxDepth)
    (size : Nat) : (run size (.initial 0) ts).outcome = .ok root := by
  cases h with
  | @mk before ts after last _ hbefore helement hafter hlast =>
      have hbegins : Begins ⟨.prolog, [], 0⟩ [] 0 := begins_prolog
      have hroot := moves_element helement hbegins (by omega)
      have hmoves := (moves_blank (fun _ => step_prolog_blank) hbefore).trans
        (hroot.trans (moves_blank (fun _ => step_epilog_blank) hafter))
      rw [← List.append_assoc ts, ← List.append_assoc before, State.initial, hmoves.run_eq]
      simp [State.completed, run, State.step, hlast]

end Complete

/-! ## From the machine to the grammar -/

section Append

variable {ts us : List Token}

theorem DerivesAttributes.append {as bs : List Attribute} (h : DerivesAttributes ts as)
    (k : DerivesAttributes us bs) : DerivesAttributes (ts ++ us) (as ++ bs) := by
  induction h with
  | nil => exact k
  | cons hname hequals hvalue _ ih => exact .cons hname hequals hvalue ih

theorem DerivesContent.append {ts us : List Token} {nodes more : List Node}
    (h : DerivesContent ts nodes) (k : DerivesContent us more) :
    DerivesContent (ts ++ us) (nodes ++ more) := by
  cases h with
  | nil => exact k
  | text ht hrest => exact .text ht (DerivesContent.append hrest k)
  | cdata ht hrest => exact .cdata ht (DerivesContent.append hrest k)
  | element helement hrest =>
      rw [List.append_assoc]
      exact .element helement (DerivesContent.append hrest k)

end Append

/-- The tokens of an element that is open: its first tag and the children so far. -/
inductive DerivesOpen : List Token → OpenElement → Prop
  | mk {ts us : List Token} {n : String} {as : List Attribute} {children : List Node} {start : Nat}
      {middle : Token} (htag : DerivesTag ts n as start) (hmiddle : middle.lexeme = .tagClose)
      (hcontent : DerivesContent us children) :
      DerivesOpen (ts ++ middle :: us) ⟨n, as, children, start⟩

/-- The tokens of the open elements, the outermost first, and how many levels they make. -/
inductive Encloses : List Token → List OpenElement → Nat → Prop
  | root {ts : List Token} (hblank : ∀ t ∈ ts, t.IsBlank) : Encloses ts [] 0
  | child {ts us : List Token} {ancestors : List OpenElement} {e : OpenElement} {depth : Nat}
      (houter : Encloses ts ancestors depth) (hopen : DerivesOpen us e)
      (hdepth : depth + levels e.children ≤ maxDepth) : Encloses (ts ++ us) (e :: ancestors) (depth + 1)

/-- The tokens of the element at hand in a phase, and how many levels there are below it so far. -/
inductive ReadsElement : List Token → Phase → Nat → Prop
  | opening {t : Token} (ht : t.lexeme = .tagOpen) : ReadsElement [t] (.opening t.start) 0
  | tag {ts : List Token} {n : String} {as : List Attribute} {start : Nat}
      (htag : DerivesTag ts n as start) : ReadsElement ts (.tag ⟨n, as, [], start⟩) 0
  | attributeName {ts : List Token} {n m : String} {as : List Attribute} {start : Nat} {t : Token}
      (htag : DerivesTag ts n as start) (ht : t.lexeme = .name m) :
      ReadsElement (ts ++ [t]) (.attributeName ⟨n, as, [], start⟩ m t.start) 0
  | attributeEquals {ts : List Token} {n m : String} {as : List Attribute} {start : Nat} {t u : Token}
      (htag : DerivesTag ts n as start) (ht : t.lexeme = .name m) (hu : u.lexeme = .equals) :
      ReadsElement (ts ++ [t, u]) (.attributeEquals ⟨n, as, [], start⟩ m t.start) 0
  | content {ts : List Token} {e : OpenElement} (hopen : DerivesOpen ts e) :
      ReadsElement ts (.content e) (levels e.children)
  | closing {ts : List Token} {e : OpenElement} {t : Token} (hopen : DerivesOpen ts e)
      (ht : t.lexeme = .closeTagOpen) :
      ReadsElement (ts ++ [t]) (.closing e t.start) (levels e.children)
  | closingName {ts : List Token} {e : OpenElement} {n : String} {t u : Token}
      (hopen : DerivesOpen ts e) (ht : t.lexeme = .closeTagOpen) (hu : u.lexeme = .name n) :
      ReadsElement (ts ++ [t, u]) (.closingName e t.start n) (levels e.children)

/-- The tokens that have been read in a state. -/
inductive Reads : List Token → State → Prop
  | prolog {ts : List Token} (hblank : ∀ t ∈ ts, t.IsBlank) : Reads ts ⟨.prolog, [], 0⟩
  | within {ts us : List Token} {phase : Phase} {ancestors : List OpenElement} {depth below : Nat}
      (houter : Encloses ts ancestors depth) (hhere : ReadsElement us phase below)
      (hdepth : depth + below ≤ maxDepth) : Reads (ts ++ us) ⟨phase, ancestors, depth⟩
  | epilog {before ts after : List Token} {root : Element} (hbefore : ∀ t ∈ before, t.IsBlank)
      (helement : DerivesElement ts root) (hdepth : root.nesting ≤ maxDepth)
      (hafter : ∀ t ∈ after, t.IsBlank) : Reads (before ++ (ts ++ after)) ⟨.epilog root, [], 0⟩

section Sound

variable {ts us : List Token} {t : Token} {s next : State}

private theorem blank_concat (h : ∀ u ∈ ts, u.IsBlank) (ht : t.IsBlank) : ∀ u ∈ ts ++ [t], u.IsBlank := by
  intro u hu
  rcases List.mem_append.mp hu with hold | hnew
  · exact h u hold
  · exact List.mem_singleton.mp hnew ▸ ht

theorem DerivesOpen.addChild {e : OpenElement} {node : Node} (h : DerivesOpen ts e)
    (k : DerivesContent us [node]) : DerivesOpen (ts ++ us) (e.addChild node) := by
  cases h with
  | mk htag hmiddle hcontent =>
      rw [List.append_assoc, List.cons_append]
      exact .mk htag hmiddle (hcontent.append k)

theorem DerivesTag.addAttribute {n m v : String} {as : List Attribute} {start : Nat} {name equals : Token}
    (h : DerivesTag ts n as start) (hname : name.lexeme = .name m) (hequals : equals.lexeme = .equals)
    (hvalue : t.lexeme = .attrValue v) (hnew : OpenElement.hasAttribute ⟨n, as, [], start⟩ m = false) :
    DerivesTag (ts ++ [name, equals, t]) n (as ++ [⟨m, v, name.start, t.stop⟩]) start := by
  cases h with
  | mk hopening hname' hattributes hdistinct =>
      refine .mk hopening hname' (hattributes.append (.cons hname hequals hvalue .nil)) ?_
      rw [OpenElement.hasAttribute, List.any_eq_false] at hnew
      rw [List.map_append, List.nodup_append]
      refine ⟨hdistinct, List.pairwise_singleton .., ?_⟩
      intro other hother last hlast
      obtain ⟨a, ha, rfl⟩ := List.mem_map.mp hother
      rw [List.map_singleton, List.mem_singleton] at hlast
      intro hsame
      exact hnew a ha (beq_iff_eq.mpr (hsame.trans hlast))

/-- A complete element is read. -/
theorem Encloses.completed {ancestors : List OpenElement} {depth : Nat} {e : Element}
    (h : Encloses ts ancestors depth) (helement : DerivesElement us e)
    (hdepth : depth + e.nesting ≤ maxDepth) :
    Reads (ts ++ us) (State.completed ancestors depth e) := by
  cases h with
  | root hblank =>
      have hread : Reads (ts ++ (us ++ [])) (State.completed [] 0 e) :=
        .epilog hblank helement (by omega) (fun t ht => nomatch ht)
      rw [List.append_nil] at hread
      exact hread
  | @child outer inner ancestors parent depth houter hopen hlevels =>
      have hchild : DerivesContent us [.element e] := by
        have hcontent := DerivesContent.element helement .nil
        rw [List.append_nil] at hcontent
        exact hcontent
      rw [List.append_assoc]
      refine .within houter (.content (hopen.addChild hchild)) ?_
      rw [OpenElement.addChild, levels_append, levels_element, levels_nil]
      omega

/-- What is read after a token between the tags of an element. -/
theorem Reads.step_content {e : OpenElement} {ancestors : List OpenElement} {depth : Nat}
    (houter : Encloses ts ancestors depth) (hopen : DerivesOpen us e)
    (hdepth : depth + levels e.children ≤ maxDepth)
    (hstep : State.stepContent ⟨.content e, ancestors, depth⟩ e t = .next next) :
    Reads (ts ++ (us ++ [t])) next := by
  rw [State.stepContent] at hstep
  split at hstep
  · rename_i value ht
    cases hstep
    refine .within houter (.content (hopen.addChild (.text ht .nil))) ?_
    simpa [OpenElement.addChild, levels_append] using hdepth
  · rename_i body ht
    cases hstep
    refine .within houter (.content (hopen.addChild (.cdata ht .nil))) ?_
    simpa [OpenElement.addChild, levels_append] using hdepth
  · rename_i ht
    split at hstep
    · cases hstep
    · cases hstep
      rw [← List.append_assoc]
      exact .within (.child houter hopen hdepth) (.opening ht) (by omega)
  · rename_i ht
    cases hstep
    exact .within houter (.closing hopen ht) hdepth
  · cases hstep
  · simp at hstep

/-- What is read after a token in an element. -/
theorem Reads.step_within {phase : Phase} {ancestors : List OpenElement} {depth below : Nat}
    (houter : Encloses ts ancestors depth) (hhere : ReadsElement us phase below)
    (hdepth : depth + below ≤ maxDepth) (hstep : State.step ⟨phase, ancestors, depth⟩ t = .next next) :
    Reads (ts ++ (us ++ [t])) next := by
  rw [State.step.eq_def] at hstep
  cases hhere with
  | opening hopening =>
      dsimp only at hstep
      split at hstep
      · rename_i name ht
        cases hstep
        exact .within houter (.tag (.mk hopening ht .nil .nil)) hdepth
      · simp at hstep
  | tag htag =>
      dsimp only at hstep
      split at hstep
      · rename_i name ht
        cases hstep
        exact .within houter (.attributeName htag ht) hdepth
      · rename_i ht
        rw [State.complete_eq] at hstep
        cases hstep
        exact houter.completed (.empty htag ht) hdepth
      · rename_i ht
        cases hstep
        exact .within houter (.content (.mk htag ht .nil)) hdepth
      · simp at hstep
  | attributeName htag hname =>
      dsimp only at hstep
      split at hstep
      · rename_i ht
        cases hstep
        rw [List.append_assoc]
        exact .within houter (.attributeEquals htag hname ht) hdepth
      · simp at hstep
  | attributeEquals htag hname hequals =>
      dsimp only at hstep
      split at hstep
      · rename_i value ht
        split at hstep
        · cases hstep
        · rename_i hnew
          cases hstep
          rw [List.append_assoc]
          exact .within houter (.tag (htag.addAttribute hname hequals ht (by simpa using hnew))) hdepth
      · simp at hstep
  | content hopen => exact .step_content houter hopen hdepth hstep
  | closing hopen hclosing =>
      dsimp only at hstep
      split at hstep
      · rename_i name ht
        cases hstep
        rw [List.append_assoc]
        exact .within houter (.closingName hopen hclosing ht) hdepth
      · simp at hstep
  | @closingName us e n _ _ hopen hclosing hname =>
      dsimp only at hstep
      split at hstep
      · rename_i hsame
        subst hsame
        split at hstep
        · rename_i ht
          rw [State.complete_eq] at hstep
          cases hstep
          cases hopen with
          | mk htag hmiddle hcontent =>
              have helement := DerivesElement.filled htag hmiddle hcontent hclosing hname ht
              simp only [List.append_assoc, List.cons_append, List.nil_append] at helement ⊢
              exact houter.completed helement hdepth
        · simp at hstep
      · cases hstep

/-- **READ**: a token that the machine goes on from continues what has been read. -/
theorem Reads.step (h : Reads ts s) (hstep : s.step t = .next next) : Reads (ts ++ [t]) next := by
  cases h with
  | prolog hblank =>
      rw [State.step] at hstep
      dsimp only at hstep
      split at hstep
      · rename_i value ht
        split at hstep
        · rename_i hvalue
          cases hstep
          exact .prolog (blank_concat hblank ⟨value, ht, (Text.trimmed_eq_empty_iff value).mpr hvalue⟩)
        · simp at hstep
      · rename_i ht
        cases hstep
        exact .within (.root hblank) (.opening ht) (Nat.zero_le _)
      · simp at hstep
  | within houter hhere hdepth =>
      rw [List.append_assoc]
      exact .step_within houter hhere hdepth hstep
  | epilog hbefore helement hdepth hafter =>
      rw [State.step] at hstep
      dsimp only at hstep
      split at hstep
      · rename_i value ht
        split at hstep
        · rename_i hvalue
          cases hstep
          rw [List.append_assoc, List.append_assoc]
          exact .epilog hbefore helement hdepth
            (blank_concat hafter ⟨value, ht, (Text.trimmed_eq_empty_iff value).mpr hvalue⟩)
        · simp at hstep
      · cases hstep
      · simp at hstep

/-- Only the end of the text is accepted, after the root element. -/
theorem State.eq_of_step_accept {root : Element} (hstep : s.step t = .accept root) :
    s.phase = .epilog root ∧ t.lexeme = .eof := by
  obtain ⟨phase, ancestors, depth⟩ := s
  cases phase with
  | epilog other =>
      rw [State.step] at hstep
      dsimp only at hstep
      split at hstep
      · split at hstep
        · cases hstep
        · simp at hstep
      · rename_i ht
        cases hstep
        exact ⟨rfl, ht⟩
      · simp at hstep
  | _ =>
      simp only [State.step, State.stepContent, State.complete_eq] at hstep
      repeat' split at hstep
      all_goals first
        | cases hstep
        | simp at hstep

theorem Reads.accept {root : Element} (h : Reads ts s) (hstep : s.step t = .accept root) :
    DerivesDocument (ts ++ [t]) root ∧ root.nesting ≤ maxDepth := by
  obtain ⟨hphase, hlast⟩ := State.eq_of_step_accept hstep
  cases h with
  | prolog => cases hphase
  | within _ hhere =>
      dsimp only at hphase
      subst hphase
      cases hhere
  | epilog hbefore helement hdepth hafter =>
      cases hphase
      refine ⟨?_, hdepth⟩
      rw [List.append_assoc, List.append_assoc]
      exact .mk hbefore helement hafter hlast

/-- **SOUND**: what is accepted begins with the tokens of a document, which does not nest too deeply. -/
theorem Reads.run {size : Nat} {root : Element} (h : Reads ts s)
    (hok : (Markup.run size s us).outcome = .ok root) :
    ∃ vs ws, us = vs ++ ws ∧ DerivesDocument (ts ++ vs) root ∧ root.nesting ≤ maxDepth := by
  induction us generalizing ts s with
  | nil => cases hok
  | cons t rest ih =>
      rw [Markup.run] at hok
      split at hok
      · rename_i next hstep
        obtain ⟨vs, ws, rfl, hdocument, hdepth⟩ := ih (h.step hstep) hok
        rw [List.append_assoc] at hdocument
        exact ⟨t :: vs, ws, rfl, hdocument, hdepth⟩
      · rename_i other hstep
        cases hok
        obtain ⟨hdocument, hdepth⟩ := h.accept hstep
        exact ⟨[t], rest, rfl, hdocument, hdepth⟩
      · cases hok

end Sound

/-! ## The documents that are accepted -/

/-- A document has no tokens after its end. -/
theorem DerivesDocument.eq_nil {ts vs ws : List Token} {last : Token} {root : Element}
    (h : DerivesDocument vs root) (heq : ts ++ [last] = vs ++ ws) (hne : ∀ t ∈ ts, t.lexeme ≠ .eof) :
    ws = [] := by
  cases h with
  | @mk before us after done _ _ _ _ hdone =>
      rcases List.eq_nil_or_concat ws with hnil | ⟨rest, final, rfl⟩
      · exact hnil
      · -- the end would stand before the last token
        have hinit : ts = before ++ (us ++ (after ++ [done])) ++ rest := by
          rw [List.concat_eq_append, ← List.append_assoc] at heq
          exact (List.append_inj' heq rfl).1
        refine absurd hdone (hne done ?_)
        rw [hinit]
        simp

/-- What a text is read as is the tree that its tokens stand for. -/
theorem parse_eq_ok_iff (text : String) (root : Element) :
    parse text = .ok root ↔
      DerivesDocument (Parser.significant text) root ∧ root.nesting ≤ maxDepth := by
  constructor
  · intro hok
    have hinitial : Reads [] (.initial 0) := .prolog fun t ht => nomatch ht
    obtain ⟨vs, ws, heq, hdocument, hdepth⟩ := hinitial.run hok
    obtain ⟨ts, last, hts, -, hne⟩ := (Scanner.ofText text).significant_eq_append_eof
    have hnil := DerivesDocument.eq_nil hdocument (hts.symm.trans heq) hne
    refine ⟨?_, hdepth⟩
    rw [show Parser.significant text = vs ++ ws from heq, hnil, List.append_nil]
    exact hdocument
  · rintro ⟨hdocument, hdepth⟩
    exact run_document hdocument hdepth _

/-- A text that is read as the tokens of an element from its front to its end is a document. -/
theorem Scans.derivesDocument {cs : List Char} {ts : List Token} {root : Element} {stop : Nat}
    (h : Scans ⟨cs, 0, .content⟩ ts ⟨[], stop, .content⟩) (hfront : cs.head? = some '<')
    (helement : DerivesElement ts root) : DerivesDocument (Parser.significant (String.ofList cs)) root := by
  have hstart : Scanner.ofText (String.ofList cs) = ⟨cs, 0, .content⟩ := by
    obtain ⟨rest, rfl⟩ := List.head?_eq_some_iff.mp hfront
    rw [Scanner.ofText, String.toList_ofList]
    rfl
  have hdocument : DerivesDocument ([] ++ (ts ++ ([] ++ [Scanner.token ⟨[], stop, .content⟩]))) root :=
    .mk (by simp) helement (by simp) rfl
  rw [Parser.significant_eq, hstart, h.significant_eq, Scanner.significant_of_nil rfl]
  exact hdocument

/-- **ACCEPTED**: a text is accepted exactly if its tokens are those of a document that does not nest too
    deeply, and it is read as the one tree that they stand for. -/
theorem accepted_iff_derives (text : String) :
    ((∃ root, parse text = .ok root) ↔
      ∃ root, DerivesDocument (Parser.significant text) root ∧ root.nesting ≤ maxDepth) ∧
    ∀ root, parse text = .ok root →
      DerivesDocument (Parser.significant text) root ∧
        ∀ other, DerivesDocument (Parser.significant text) other → other = root := by
  refine ⟨exists_congr (parse_eq_ok_iff text), ?_⟩
  intro root hok
  have hdocument := ((parse_eq_ok_iff text root).mp hok).1
  exact ⟨hdocument, fun other hother => hother.unique hdocument⟩

end Archetype.Markup
