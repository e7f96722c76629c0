import Archetype.Proofs.Locality
import Archetype.Proofs.Recognition
import Mathlib.Data.List.Basic

/-! # The spans of elements

    What stands between the offsets of an element is the element and nothing else: as a text of its own it
    is a document with that element, its offsets counted from there (`parse_span`).  And a document that is
    cut off before the end of its root is no document (`parse_cut`).

    Both come from what scanning an element takes (`exists_span`).  Its tokens begin with a `<` outside
    tags and end with a closer, so nothing before it or behind it has a part in them.  The grammar does the
    rest: it looks at the lexemes of tokens, so trees follow their tokens to other offsets
    (`DerivesElement.mapOffsets`), and it is unambiguous, so a root that ends earlier would be the root. -/

namespace Archetype.Markup

open Text

/-! ## Trees at other offsets -/

/-- An attribute with other offsets. -/
def Attribute.mapOffsets (f : Nat → Nat) (a : Attribute) : Attribute :=
  ⟨a.name, a.value, f a.start, f a.stop⟩

/-- Character data with another offset. -/
def CharData.mapOffsets (f : Nat → Nat) (data : CharData) : CharData :=
  ⟨data.value, f data.start, data.cdata⟩

mutual

/-- An element with other offsets, at any depth. -/
def Element.mapOffsets (f : Nat → Nat) : Element → Element
  | ⟨name, attributes, children, start, stop⟩ =>
    ⟨name, attributes.map (·.mapOffsets f), mapOffsets f children, f start, f stop⟩

/-- Nodes with other offsets. -/
def mapOffsets (f : Nat → Nat) : List Node → List Node
  | [] => []
  | .text data :: rest => .text (data.mapOffsets f) :: mapOffsets f rest
  | .element e :: rest => .element (e.mapOffsets f) :: mapOffsets f rest

end

variable {f : Nat → Nat} {ts us vs : List Token}

mutual

theorem Element.nesting_mapOffsets : ∀ e : Element, (e.mapOffsets f).nesting = e.nesting
  | ⟨_, _, children, _, _⟩ => levels_mapOffsets children

theorem levels_mapOffsets : ∀ nodes : List Node, levels (mapOffsets f nodes) = levels nodes
  | [] => rfl
  | .text _ :: rest => levels_mapOffsets rest
  | .element e :: rest => by
      rw [mapOffsets, levels_element, levels_element, e.nesting_mapOffsets, levels_mapOffsets rest]

end

theorem DerivesAttributes.mapOffsets {as : List Attribute} (h : DerivesAttributes ts as) :
    DerivesAttributes (ts.map (·.mapOffsets f)) (as.map (·.mapOffsets f)) := by
  induction h with
  | nil => exact .nil
  | cons hname hequals hvalue _ ih => exact .cons hname hequals hvalue ih

theorem DerivesTag.mapOffsets {n : String} {as : List Attribute} {start : Nat} (h : DerivesTag ts n as start) :
    DerivesTag (ts.map (·.mapOffsets f)) n (as.map (·.mapOffsets f)) (f start) := by
  cases h with
  | mk hopening hname hattributes hdistinct =>
      refine .mk hopening hname hattributes.mapOffsets ?_
      rw [List.map_map]
      exact hdistinct

mutual

/-- A tree follows its tokens to other offsets. -/
theorem DerivesElement.mapOffsets {ts : List Token} {e : Element} (h : DerivesElement ts e) :
    DerivesElement (ts.map (·.mapOffsets f)) (e.mapOffsets f) := by
  cases h with
  | empty htag hclosing =>
      rw [List.map_append]
      exact .empty htag.mapOffsets hclosing
  | filled htag hmiddle hcontent hopening hname hclosing =>
      rw [List.map_append, List.map_cons, List.map_append]
      exact .filled htag.mapOffsets hmiddle hcontent.mapOffsets hopening hname hclosing

theorem DerivesContent.mapOffsets {ts : List Token} {nodes : List Node} (h : DerivesContent ts nodes) :
    DerivesContent (ts.map (·.mapOffsets f)) (mapOffsets f nodes) := by
  cases h with
  | nil => exact .nil
  | text ht hrest => exact .text ht hrest.mapOffsets
  | cdata ht hrest => exact .cdata ht hrest.mapOffsets
  | element helement hrest =>
      rw [List.map_append]
      exact .element helement.mapOffsets hrest.mapOffsets

end

/-- An element of moved tokens is a moved element. -/
theorem DerivesElement.exists_own {e : Element} {n : Nat} (h : DerivesElement (us.map (·.moved n)) e) :
    ∃ own, DerivesElement us own ∧ e = own.mapOffsets (· + n) := by
  have hback : (us.map (·.moved n)).map (·.mapOffsets (· - n)) = us := by
    rw [List.map_map]
    refine (List.map_congr_left fun t _ => ?_).trans (List.map_id us)
    simp [Token.moved, Token.mapOffsets]
  have hown := h.mapOffsets (f := (· - n))
  rw [hback] at hown
  have hagain : DerivesElement (us.map (·.moved n)) _ := hown.mapOffsets (f := (· + n))
  have hsame : us.map (·.moved n) ++ [] = us.map (·.moved n) ++ [] := rfl
  exact ⟨_, hown, (h.unique hagain hsame).2⟩

/-! ## The tokens of an element -/

section Tokens

variable {e c : Element} {nodes : List Node}

/-- An element begins with a `<` and ends with a closer, at its offsets. -/
theorem DerivesElement.ends (h : DerivesElement ts e) :
    ∃ opening inner closing, ts = opening :: (inner ++ [closing]) ∧
      opening.lexeme = .tagOpen ∧ opening.start = e.start ∧
      closing.lexeme.isCloser = true ∧ closing.stop = e.stop := by
  cases h with
  | @empty _ _ _ _ closing htag hclosing =>
      cases htag with
      | mk hopening => exact ⟨_, _, closing, rfl, hopening, rfl, by rw [hclosing]; rfl, rfl⟩
  | @filled _ us _ _ _ _ middle opening name closing htag _ _ _ _ hclosing =>
      cases htag with
      | @mk first second _ ts _ hopening =>
          refine ⟨first, second :: (ts ++ middle :: (us ++ [opening, name])), closing, ?_, hopening, rfl,
            by rw [hclosing]; rfl, rfl⟩
          simp

/-- A token of something known. -/
def Token.IsKnown (t : Token) : Prop :=
  t.lexeme ≠ .unknown ∧ t.lexeme ≠ .eof

theorem DerivesAttributes.known {as : List Attribute} (h : DerivesAttributes ts as) :
    ∀ t ∈ ts, t.IsKnown := by
  induction h with
  | nil => exact fun t ht => nomatch ht
  | cons hname hequals hvalue _ ih =>
      simp only [List.forall_mem_cons]
      exact ⟨by simp [Token.IsKnown, hname], by simp [Token.IsKnown, hequals],
        by simp [Token.IsKnown, hvalue], ih⟩

theorem DerivesTag.known {n : String} {as : List Attribute} {start : Nat} (h : DerivesTag ts n as start) :
    ∀ t ∈ ts, t.IsKnown := by
  cases h with
  | mk hopening hname hattributes =>
      simp only [List.forall_mem_cons]
      exact ⟨by simp [Token.IsKnown, hopening], by simp [Token.IsKnown, hname], hattributes.known⟩

mutual

/-- Every token of an element is of something known. -/
theorem DerivesElement.known {ts : List Token} {e : Element} (h : DerivesElement ts e) :
    ∀ t ∈ ts, t.IsKnown := by
  cases h with
  | empty htag hclosing =>
      simp only [List.forall_mem_append, List.forall_mem_singleton]
      exact ⟨htag.known, by simp [Token.IsKnown, hclosing]⟩
  | filled htag hmiddle hcontent hopening hname hclosing =>
      simp only [List.forall_mem_append, List.forall_mem_cons]
      exact ⟨htag.known, by simp [Token.IsKnown, hmiddle], hcontent.known, by simp [Token.IsKnown, hopening],
        by simp [Token.IsKnown, hname], by simp [Token.IsKnown, hclosing], nofun⟩

theorem DerivesContent.known {ts : List Token} {nodes : List Node} (h : DerivesContent ts nodes) :
    ∀ t ∈ ts, t.IsKnown := by
  cases h with
  | nil => exact fun t ht => nomatch ht
  | text ht hrest => exact List.forall_mem_cons.mpr ⟨by simp [Token.IsKnown, ht], hrest.known⟩
  | cdata ht hrest => exact List.forall_mem_cons.mpr ⟨by simp [Token.IsKnown, ht], hrest.known⟩
  | element helement hrest => exact List.forall_mem_append.mpr ⟨helement.known, hrest.known⟩

end

/-- The tokens of a child stand together among those of the content. -/
theorem DerivesContent.exists_infix (h : DerivesContent ts nodes) (hc : .element c ∈ nodes) :
    ∃ xs us ys, ts = xs ++ (us ++ ys) ∧ DerivesElement us c := by
  induction nodes generalizing ts with
  | nil => cases hc
  | cons node rest ih =>
      cases h with
      | @text t _ ts _ _ hrest =>
          obtain ⟨xs, us, ys, rfl, hc⟩ := ih hrest (by simpa using hc)
          exact ⟨t :: xs, us, ys, rfl, hc⟩
      | @cdata t _ ts _ _ hrest =>
          obtain ⟨xs, us, ys, rfl, hc⟩ := ih hrest (by simpa using hc)
          exact ⟨t :: xs, us, ys, rfl, hc⟩
      | @element ts us e _ helement hrest =>
          rcases List.mem_cons.mp hc with heq | hmem
          · cases heq
            exact ⟨[], ts, us, rfl, helement⟩
          · obtain ⟨xs, vs, ys, rfl, hc⟩ := ih hrest hmem
            exact ⟨ts ++ xs, vs, ys, by simp, hc⟩

/-- The tokens of a child stand together among those of the element, neither first nor last. -/
theorem DerivesElement.exists_infix (h : DerivesElement ts e) (hc : c ∈ e.elements) :
    ∃ xs us ys, ts = xs ++ (us ++ ys) ∧ xs ≠ [] ∧ ys ≠ [] ∧ DerivesElement us c := by
  obtain ⟨node, hnode, hnode'⟩ := List.mem_filterMap.mp hc
  cases h with
  | empty => cases hnode
  | @filled ts us _ _ _ _ middle opening name closing _ _ hcontent =>
      cases node with
      | text data => cases hnode'
      | element d =>
          cases hnode'
          obtain ⟨xs, vs, ys, rfl, hc⟩ := hcontent.exists_infix hnode
          exact ⟨ts ++ middle :: xs, vs, ys ++ [opening, name, closing], by simp, by simp, by simp, hc⟩

/-- Where tokens stand one behind the other, so do the elements of a content. -/
theorem DerivesContent.pairwise_elements (h : DerivesContent ts nodes)
    (hordered : ts.Pairwise (·.stop ≤ ·.start)) :
    (nodes.filterMap Node.element?).Pairwise (·.stop ≤ ·.start) := by
  induction nodes generalizing ts with
  | nil => exact .nil
  | cons node rest ih =>
      cases h with
      | text _ hrest => exact ih hrest (List.pairwise_cons.mp hordered).2
      | cdata _ hrest => exact ih hrest (List.pairwise_cons.mp hordered).2
      | @element ts us e _ helement hrest =>
          obtain ⟨-, hus, hbetween⟩ := List.pairwise_append.mp hordered
          refine List.pairwise_cons.mpr ⟨fun c hc => ?_, ih hrest hus⟩
          obtain ⟨node, hnode, hnode'⟩ := List.mem_filterMap.mp hc
          cases node with
          | text data => cases hnode'
          | element d =>
              cases hnode'
              -- the closer of the one element stands before the opener of the other
              obtain ⟨_, _, closing, hts, -, -, -, hstop⟩ := helement.ends
              obtain ⟨xs, vs, ys, hus, hc⟩ := hrest.exists_infix hnode
              obtain ⟨opening, _, _, hvs, -, hstart, -, -⟩ := hc.ends
              rw [← hstop, ← hstart]
              exact hbetween closing (by simp [hts]) opening (by simp [hus, hvs])

/-- Where tokens stand one behind the other, so do the children of an element. -/
theorem DerivesElement.pairwise_elements (h : DerivesElement ts e)
    (hordered : ts.Pairwise (·.stop ≤ ·.start)) : e.elements.Pairwise (·.stop ≤ ·.start) := by
  cases h with
  | empty => exact .nil
  | filled _ _ hcontent =>
      refine hcontent.pairwise_elements (hordered.sublist ?_)
      exact ((List.sublist_append_left _ _).trans (List.sublist_cons_self _ _)).trans
        (List.sublist_append_right _ _)

/-- An element spans something, where its tokens do. -/
theorem DerivesElement.start_lt_stop (h : DerivesElement ts e) (hordered : ts.Pairwise (·.stop ≤ ·.start))
    (hspans : ∀ t ∈ ts, t.start < t.stop) : e.start < e.stop := by
  obtain ⟨opening, inner, closing, rfl, -, hstart, -, hstop⟩ := h.ends
  have hbefore := (List.pairwise_cons.mp hordered).1 closing (by simp)
  have hopening := hspans opening (by simp)
  have hclosing := hspans closing (by simp)
  omega

/-- A child spans something strictly inside of what its parent spans. -/
theorem DerivesElement.span_child (h : DerivesElement ts e) (hordered : ts.Pairwise (·.stop ≤ ·.start))
    (hspans : ∀ t ∈ ts, t.start < t.stop) (hc : c ∈ e.elements) :
    e.start < c.start ∧ c.start < c.stop ∧ c.stop < e.stop := by
  obtain ⟨xs, us, ys, rfl, hxs, hys, hchild⟩ := h.exists_infix hc
  obtain ⟨opening, inner, closing, hends, -, hstart, -, hstop⟩ := h.ends
  -- the opener of the element stands before the tokens of the child, its closer behind them
  have hopening : opening ∈ xs := by
    obtain ⟨x, rest, rfl⟩ := List.exists_cons_of_ne_nil hxs
    injection hends with hhead
    rw [hhead]
    exact List.mem_cons_self
  have hclosing : closing ∈ ys := by
    obtain ⟨rest, y, rfl⟩ := (List.eq_nil_or_concat ys).resolve_left hys
    rw [List.concat_eq_append, ← List.append_assoc us, ← List.append_assoc xs,
      ← List.cons_append] at hends
    rw [List.concat_eq_append, ← List.singleton_inj.mp (List.append_inj' hends rfl).2]
    exact List.mem_append_right _ (List.mem_singleton_self y)
  obtain ⟨-, hrest, hbefore⟩ := List.pairwise_append.mp hordered
  obtain ⟨hus, -, hbehind⟩ := List.pairwise_append.mp hrest
  have hspan := hchild.start_lt_stop hus fun t ht => hspans t (by simp [ht])
  obtain ⟨first, middle, final, rfl, -, hfirst, -, hfinal⟩ := hchild.ends
  have hlow := hbefore opening hopening first (by simp)
  have hhigh := hbehind final (by simp) closing hclosing
  have hopeningSpan := hspans opening (by simp [hopening])
  have hclosingSpan := hspans closing (by simp [hclosing])
  omega

end Tokens

/-! ## What an element spans -/

/-- How deep an element nests bounds how deep its children do. -/
theorem levels_of_mem {c : Element} {nodes : List Node} (hc : .element c ∈ nodes) :
    c.nesting + 1 ≤ levels nodes := by
  induction nodes with
  | nil => cases hc
  | cons node rest ih =>
      rcases List.mem_cons.mp hc with rfl | hmem
      · rw [levels_element]
        exact Nat.le_max_left _ _
      · have hrest := ih hmem
        cases node with
        | text data => exact hrest
        | element e =>
            rw [levels_element]
            exact Nat.le_trans hrest (Nat.le_max_right _ _)

theorem Element.nesting_child {e c : Element} (hc : c ∈ e.elements) : c.nesting + 1 ≤ e.nesting := by
  obtain ⟨name, attributes, children, start, stop⟩ := e
  obtain ⟨node, hnode, hnode'⟩ := List.mem_filterMap.mp hc
  cases node with
  | text data => cases hnode'
  | element d =>
      cases hnode'
      exact levels_of_mem hnode

/-- An element of a tree: the root, or one of the tree of a child. -/
inductive Element.Within (e : Element) : Element → Prop
  | self : Within e e
  | child {c parent : Element} (hchild : c ∈ parent.elements) (h : Within e c) : Within e parent

theorem Element.Within.nesting_le {e root : Element} (h : e.Within root) : e.nesting ≤ root.nesting := by
  induction h with
  | self => exact Nat.le_refl _
  | child hchild _ ih =>
      have := nesting_child hchild
      omega

/-- The tokens of an element stand together among those of the tree. -/
theorem Element.Within.exists_infix {e root : Element} (h : e.Within root) (hroot : DerivesElement ts root) :
    ∃ xs us ys, ts = xs ++ (us ++ ys) ∧ DerivesElement us e := by
  induction h generalizing ts with
  | self => exact ⟨[], ts, [], by simp, hroot⟩
  | child hchild _ ih =>
      obtain ⟨xs, us, ys, rfl, -, -, hc⟩ := hroot.exists_infix hchild
      obtain ⟨ws, vs, zs, rfl, he⟩ := ih hc
      exact ⟨xs ++ ws, vs, zs ++ ys, by simp, he⟩

/-- **SPANS**: where the tokens of an element stand in a text, they are read of the slice that the element
    spans, wherever it stands and whatever comes behind it. -/
theorem exists_span {s : Scanner} {xs ys : List Token} {e : Element} (h : s.significant = xs ++ (ts ++ ys))
    (helement : DerivesElement ts e) :
    ∃ m slice rest us, Scans s xs m ∧ m.mode = .content ∧ m.rest = slice ++ rest ∧
      m.position = e.start ∧ e.stop = e.start + byteLength slice ∧ ts = us.map (·.moved e.start) ∧
      slice.head? = some '<' ∧ ReadsAs (fun _ => True) .content .content slice us := by
  have hknown := helement.known
  obtain ⟨opening, inner, closing, rfl, hopening, hstart, hclosing, hstop⟩ := helement.ends
  rw [← List.cons_append, List.append_assoc, List.singleton_append, List.cons_append] at h
  rw [← List.cons_append, List.forall_mem_append, List.forall_mem_singleton] at hknown
  obtain ⟨hknown, hknownLast⟩ := hknown
  -- the scanner before the first token, and the one before the last
  obtain ⟨m, hbefore, -, htoken, hsignificant⟩ :=
    Scanner.exists_scans h (hknown opening List.mem_cons_self).2
  rw [← List.cons_append] at hsignificant
  obtain ⟨final, hinner, hne, hlast, -⟩ := Scanner.exists_scans hsignificant hknownLast.2
  have hopener : (scan m.mode m.rest).lexeme = .tagOpen := by
    rw [← hopening, ← htoken]
    rfl
  have hmode : m.mode = .content := by
    cases hmode : m.mode with
    | content => rfl
    | tag =>
        rw [hmode] at hopener
        exact absurd hopener (lexeme_scanTag_ne_tagOpen m.rest)
  have hfront : m.rest.head? = some '<' := by
    rw [hmode] at hopener
    exact head?_of_tagOpen hopener
  have hplace : m.position = e.start := by
    rw [← hstart, ← htoken]
    rfl
  obtain ⟨slice, us, hrest, hposition, hus, hreads⟩ := hinner.exists_slice fun t ht => (hknown t ht).1
  have hend := final.rest_eq
  have hlastSlice : final.reading.slice ≠ [] := slice_scan_ne_nil final.mode hne
  have hcloser : ReadsAs (fun _ => True) final.mode .content final.reading.slice _ :=
    readsAs_closer hne (by rw [hlast]; exact hclosing)
  have hjoint := hreads.append hcloser fun more _ => by
    rw [hend, List.head?_append_of_ne_nil _ hlastSlice, List.head?_append_of_ne_nil _ hlastSlice]
  rw [hmode] at hjoint
  refine ⟨m, slice ++ final.reading.slice, final.advance.rest, _, hbefore, hmode, ?_, hplace, ?_, ?_, ?_,
    hjoint⟩
  · rw [hrest, hend, List.append_assoc]
  · rw [← hstop, ← hlast, byteLength_append, ← Nat.add_assoc, ← hplace, ← hposition]
    rfl
  · rw [← List.cons_append, hus, hplace, List.map_append, ← hlast, List.map_singleton, List.map_singleton,
      Token.moved_moved, ← hplace, Nat.add_comm, ← hposition, Token.moved_front]
    rfl
  · rw [← hfront, hrest, hend, ← List.append_assoc]
    refine (List.head?_append_of_ne_nil _ ?_).symm
    exact List.append_ne_nil_of_right_ne_nil _ hlastSlice

/-! ## The spans of the elements of a document -/

/-- Behind its byte-order mark, if it has one, a text is read as it stands. -/
theorem Scanner.ofText_spec (text : String) :
    ∃ mark, text.toList = mark ++ (ofText text).rest ∧ (ofText text).position = byteLength mark := by
  rw [ofText]
  split
  · exact ⟨[], by assumption, rfl⟩
  · rename_i c cs htext
    split
    · exact ⟨[c], htext, rfl⟩
    · exact ⟨[], htext, rfl⟩

/-- The tokens of a text stand one behind the other, and each but the end spans something. -/
theorem ordered_infix {text : String} {xs ys : List Token}
    (h : Parser.significant text = xs ++ (ts ++ ys)) (hknown : ∀ t ∈ ts, t.IsKnown) :
    ts.Pairwise (·.stop ≤ ·.start) ∧ ∀ t ∈ ts, t.start < t.stop := by
  obtain ⟨hordered, hspans⟩ := (Scanner.ofText text).ordered_significant
  rw [← Parser.significant_eq, h] at hordered hspans
  refine ⟨hordered.sublist ((List.sublist_append_left ts ys).trans (List.sublist_append_right xs _)), ?_⟩
  exact fun t ht => (hspans t (by simp [ht])).2 (hknown t ht).2

/-- **SELF-CONTAINED**: an element of a document spans a slice of it, the slice is a document itself, and it
    is read as the element, with its offsets counted from where the slice begins.  What the children span
    stands strictly inside of it, the one behind the other. -/
theorem parse_span {text : String} {root e : Element} (hok : parse text = .ok root) (hwithin : e.Within root) :
    (∃ before slice after, text.toList = before ++ (slice ++ after) ∧ byteLength before = e.start ∧
      byteLength (before ++ slice) = e.stop ∧
      ∃ own, parse (String.ofList slice) = .ok own ∧ e = own.mapOffsets (· + e.start)) ∧
    (∀ c ∈ e.elements, e.start < c.start ∧ c.start < c.stop ∧ c.stop < e.stop) ∧
    e.elements.Pairwise (·.stop ≤ ·.start) := by
  obtain ⟨hdocument, hdepth⟩ := (parse_eq_ok_iff text root).mp hok
  generalize htokens : Parser.significant text = tokens at hdocument
  cases hdocument with
  | @mk blanks ts rest last _ hblanks hroot =>
      obtain ⟨xs, us, ys, rfl, he⟩ := hwithin.exists_infix hroot
      have hinfix : Parser.significant text = (blanks ++ xs) ++ (us ++ (ys ++ (rest ++ [last]))) := by
        rw [htokens]
        simp only [List.append_assoc]
      obtain ⟨hordered, hspans⟩ := ordered_infix hinfix he.known
      refine ⟨?_, fun c hc => he.span_child hordered hspans hc, he.pairwise_elements hordered⟩
      obtain ⟨m, slice, after, vs, hscans, -, hm, hstart, hstop, hus, hfront, hreads⟩ :=
        exists_span hinfix he
      obtain ⟨mark, hmark, hplace⟩ := Scanner.ofText_spec text
      obtain ⟨passed, hpassed, hposition⟩ := hscans.exists_rest
      have hbefore : byteLength (mark ++ passed) = e.start := by
        rw [byteLength_append, ← hplace, ← hposition, hstart]
      refine ⟨mark ++ passed, slice, after, ?_, hbefore, ?_, ?_⟩
      · rw [hmark, hpassed, hm, List.append_assoc]
      · rw [byteLength_append, hbefore, hstop]
      · -- the tokens of the slice are those of the element, counted from its front
        rw [hus] at he
        obtain ⟨own, hown, hmoved⟩ := he.exists_own
        have hnesting : own.nesting ≤ maxDepth := by
          have hsame : e.nesting = own.nesting := by rw [hmoved, own.nesting_mapOffsets]
          rw [← hsame]
          exact Nat.le_trans hwithin.nesting_le hdepth
        have halone := hreads 0 [] trivial
        rw [List.append_nil, show vs.map (·.moved 0) = vs from List.map_id vs] at halone
        exact ⟨own, (parse_eq_ok_iff _ own).mpr ⟨halone.derivesDocument hfront hown, hnesting⟩, hmoved⟩

/-- A note behind a byte-order mark and a comment, with marks of every kind where they are only data. -/
def note : String :=
  "\uFEFF<!-- <a> -->\n<a><b k='é>'>&lt;<c/></b> <![CDATA[</a>]]><d/></a>\n"

theorem note_accepted :
    ∃ root, parse note = .ok root ∧ root.stop = 67 ∧
      ∃ e ∈ root.elements, e.name = "b" ∧ e.start = 19 ∧ e.stop = 42 := by
  have hchecked : ((parse note).toOption.any fun root => root.stop == 67 &&
      root.elements.any fun e => e.name == "b" && (e.start == 19 && e.stop == 42)) = true := by
    decide +kernel
  cases hparse : parse note with
  | error error =>
      rw [hparse] at hchecked
      cases hchecked
  | ok root =>
      rw [hparse, Except.toOption, Option.any_some, Bool.and_eq_true, List.any_eq_true] at hchecked
      obtain ⟨hstop, e, he, hspan⟩ := hchecked
      simp only [Bool.and_eq_true, beq_iff_eq] at hstop hspan
      exact ⟨root, rfl, hstop, e, he, hspan⟩

theorem note_spans :
    ∃ root e, parse note = .ok root ∧ e.Within root ∧ e.name = "b" ∧ e.start = 19 ∧ e.stop = 42 ∧
      (∃ before slice after, note.toList = before ++ (slice ++ after) ∧ byteLength before = e.start ∧
        byteLength (before ++ slice) = e.stop ∧
        ∃ own, parse (String.ofList slice) = .ok own ∧ e = own.mapOffsets (· + e.start)) ∧
      (∀ c ∈ e.elements, e.start < c.start ∧ c.start < c.stop ∧ c.stop < e.stop) ∧
      e.elements.Pairwise (·.stop ≤ ·.start) := by
  obtain ⟨root, hok, -, e, he, hname, hstart, hstop⟩ := note_accepted
  have hwithin : e.Within root := .child he .self
  exact ⟨root, e, hok, hwithin, hname, hstart, hstop, parse_span hok hwithin⟩

/-! ## Documents that are cut off -/

/-- A text that goes on behind another begins as that one does. -/
theorem Scanner.ofText_append {front : List Char} (hne : front ≠ []) (back : List Char) :
    ∃ mark cs, front = mark ++ cs ∧ ofText (String.ofList front) = ⟨cs, byteLength mark, .content⟩ ∧
      ofText (String.ofList (front ++ back)) = ⟨cs ++ back, byteLength mark, .content⟩ := by
  obtain ⟨c, cs, rfl⟩ := List.exists_cons_of_ne_nil hne
  rw [ofText, ofText, String.toList_ofList, String.toList_ofList]
  by_cases hmark : c = byteOrderMark
  · exact ⟨[c], cs, rfl, if_pos hmark, if_pos hmark⟩
  · exact ⟨[], c :: cs, rfl, if_neg hmark, if_neg hmark⟩

theorem Token.IsBlank.lexeme_ne_unknown {t : Token} (h : t.IsBlank) : t.lexeme ≠ .unknown := by
  obtain ⟨value, ht, -⟩ := h
  simp [ht]

/-- The tokens up to the end of an element are the same whatever comes behind it. -/
theorem significant_append {cs : List Char} {n : Nat} {xs ys : List Token} {e : Element}
    (h : Scanner.significant ⟨cs, n, .content⟩ = xs ++ (ts ++ ys))
    (hknown : ∀ t ∈ xs, t.lexeme ≠ .unknown) (helement : DerivesElement ts e) (back : List Char) :
    e.stop ≤ n + byteLength cs ∧
      ∃ zs, Scanner.significant ⟨cs ++ back, n, .content⟩ = xs ++ (ts ++ zs) := by
  obtain ⟨m, slice, rest, us, hscans, hmode, hm, hstart, hstop, hts, hfront, hreads⟩ :=
    exists_span h helement
  obtain ⟨passed, vs, hpassed, hposition, hxs, hbefore⟩ := hscans.exists_slice hknown
  dsimp only at hpassed hposition hxs hbefore
  have hcs : cs = passed ++ (slice ++ rest) := by rw [hpassed, hm]
  refine ⟨?_, ?_⟩
  · rw [hstop, ← hstart, hposition, hcs, byteLength_append, byteLength_append]
    omega
  · have hslice : slice ≠ [] := by
      rintro rfl
      cases hfront
    rw [hmode] at hbefore
    have hjoint := hbefore.append hreads fun more _ => by
      rw [hm, List.head?_append_of_ne_nil _ hslice, List.head?_append_of_ne_nil _ hslice]
    have htokens : (vs ++ us.map (·.moved (byteLength passed))).map (·.moved n) = xs ++ ts := by
      rw [List.map_append, map_moved_moved, ← hposition, hstart, ← hxs, ← hts]
    have hagain := (hjoint n (rest ++ back) trivial).significant_eq
    rw [htokens, List.append_assoc, List.append_assoc xs] at hagain
    rw [hcs, List.append_assoc, List.append_assoc]
    exact ⟨_, hagain⟩

/-- Nothing is no document. -/
theorem not_derivesDocument_nil (root : Element) :
    ¬DerivesDocument (Parser.significant (String.ofList [])) root := by
  intro h
  have hend : Parser.significant (String.ofList []) = [Scanner.token ⟨[], 0, .content⟩] :=
    Scanner.significant_of_nil rfl
  rw [hend] at h
  generalize htokens : [Scanner.token ⟨[], 0, .content⟩] = tokens at h
  cases h with
  | mk _ helement =>
      obtain ⟨opening, rest, rfl, -⟩ := helement.head
      have hlength := congrArg List.length htokens
      simp only [List.length_append, List.length_cons, List.length_nil] at hlength
      omega

/-- A document that another text goes on with has the root of that text, which ends in the document. -/
theorem DerivesDocument.eq_of_append {front back : List Char} {root other : Element}
    (h : DerivesDocument (Parser.significant (String.ofList front)) root)
    (k : DerivesDocument (Parser.significant (String.ofList (front ++ back))) other) :
    root = other ∧ root.stop ≤ byteLength front := by
  have hne : front ≠ [] := by
    rintro rfl
    exact not_derivesDocument_nil root h
  obtain ⟨mark, cs, hcs, hfront, hwhole⟩ := Scanner.ofText_append hne back
  rw [Parser.significant_eq, hfront] at h
  rw [Parser.significant_eq, hwhole] at k
  generalize htokens : Scanner.significant ⟨cs, byteLength mark, .content⟩ = tokens at h
  generalize htokens' : Scanner.significant ⟨cs ++ back, byteLength mark, .content⟩ = tokens' at k
  cases h with
  | mk hblanks hroot =>
      have hknown := fun t ht => Token.IsBlank.lexeme_ne_unknown (hblanks t ht)
      -- the whole text begins with the same blanks and the same element
      obtain ⟨hstop, zs, hagain⟩ := significant_append htokens hknown hroot back
      cases k with
      | mk hblanks' hother =>
          refine ⟨hroot.unique_of_blanks hother hblanks hblanks' (hagain.symm.trans htokens'), ?_⟩
          rw [hcs, byteLength_append]
          exact hstop

/-- **CUT OFF**: what is left of a document that is cut off anywhere before the end of its root is refused. -/
theorem parse_cut {text : String} {root : Element} (hok : parse text = .ok root) {front back : List Char}
    (hcut : text.toList = front ++ back) (hshort : byteLength front < root.stop) :
    ∃ error, parse (String.ofList front) = .error error := by
  cases hparse : parse (String.ofList front) with
  | error error => exact ⟨error, rfl⟩
  | ok other =>
      rw [← String.ofList_toList (s := text), hcut] at hok
      have hfront := ((parse_eq_ok_iff _ other).mp hparse).1
      obtain ⟨rfl, hstop⟩ := hfront.eq_of_append ((parse_eq_ok_iff _ root).mp hok).1
      omega

theorem note_cut :
    ∃ root, parse note = .ok root ∧ root.stop = 67 ∧
      ∃ error, parse "\uFEFF<!-- <a> -->\n<a><b k='é>'>&lt;<c/></b> <![CDATA[</a>" = .error error := by
  obtain ⟨root, hok, hstop, -⟩ := note_accepted
  have hcut : note.toList
      = "\uFEFF<!-- <a> -->\n<a><b k='é>'>&lt;<c/></b> <![CDATA[</a>".toList ++ "]]><d/></a>\n".toList := by
    decide +kernel
  have hshort :
      byteLength "\uFEFF<!-- <a> -->\n<a><b k='é>'>&lt;<c/></b> <![CDATA[</a>".toList < root.stop := by
    rw [hstop]
    decide +kernel
  have hrefused := parse_cut hok hcut hshort
  rw [String.ofList_toList] at hrefused
  exact ⟨root, hok, hstop, hrefused⟩

end Archetype.Markup
