import Archetype.Proofs.Spans
import Archetype.Session

/-! # A byte-order mark at the front

    A mark in front of a text moves everything in it on by the bytes of the mark, and does nothing else.

    Each stage is told for any way of moving on.  The scanner reads the same lexemes at later offsets
    (`drain_ahead`), and the machine, which only passes offsets on, does the same on moved tokens with
    everything in its state moved (`step_moved`, one case a phase), so it accepts the moved tree or refuses at
    the moved place (`outcome_run_moved`).  The lines of the text move with it (`line_marked`), and what is
    staged of a tree hangs on its offsets through their lines alone (`document_mapOffsets`). -/

namespace Archetype

open Markup

/-! ## Tokens further on -/

namespace Markup

namespace Scanner

/-- The scanner with the same text left, some bytes further on. -/
def ahead (n : Nat) (s : Scanner) : Scanner :=
  { s with position := s.position + n }

theorem token_ahead (n : Nat) (s : Scanner) : (s.ahead n).token = s.token.moved n := by
  show Token.mk s.reading.lexeme (s.position + n) (s.position + n + _) = _
  rw [Nat.add_right_comm]
  rfl

theorem advance_ahead (n : Nat) (s : Scanner) : (s.ahead n).advance = s.advance.ahead n := by
  show Scanner.mk s.reading.rest (s.position + n + _) s.reading.mode = _
  rw [Nat.add_right_comm]
  rfl

/-- The tokens are the same, further on. -/
theorem drain_ahead (n : Nat) (s : Scanner) : (s.ahead n).drain.1 = s.drain.1.map (·.moved n) := by
  by_cases h : s.rest = []
  · rw [drain_of_nil h, drain_of_nil (s := s.ahead n) h, token_ahead]
    rfl
  · have hless : s.advance.rest.length < s.rest.length := length_rest_scan_lt s.mode h
    rw [drain_of_ne h, drain_of_ne (s := s.ahead n) h, token_ahead, advance_ahead,
      drain_ahead n s.advance]
    rfl
termination_by s.rest.length

/-- A mark is left out, and the text behind it is read from there. -/
theorem ofText_marked {text : String} (h : text.toList.head? ≠ some byteOrderMark) :
    ofText ("\uFEFF" ++ text) = (ofText text).ahead byteOrderMark.utf8Size := by
  have hmarked : ("\uFEFF" ++ text).toList = byteOrderMark :: text.toList := String.toList_append
  rw [ofText, ofText, hmarked]
  cases htext : text.toList with
  | nil => rfl
  | cons c cs =>
      have hne : c ≠ byteOrderMark := fun heq => h (by rw [htext, heq]; rfl)
      show (if byteOrderMark = byteOrderMark then _ else _) = ahead _ (if c = byteOrderMark then _ else _)
      rw [if_pos rfl, if_neg hne]
      rfl

end Scanner

/-- The significant tokens behind a mark. -/
theorem Parser.significant_marked {text : String} (h : text.toList.head? ≠ some Scanner.byteOrderMark) :
    Parser.significant ("\uFEFF" ++ text)
      = (Parser.significant text).map (·.moved Scanner.byteOrderMark.utf8Size) := by
  show ((Scanner.ofText _).drain.1.filter _) = _
  rw [Scanner.ofText_marked h, Scanner.drain_ahead, List.filter_map]
  rfl

/-! ## The machine on moved tokens -/

/-- An open element with other offsets. -/
def OpenElement.mapOffsets (f : Nat → Nat) (e : OpenElement) : OpenElement :=
  ⟨e.name, e.attributes.map (·.mapOffsets f), Markup.mapOffsets f e.children, f e.start⟩

/-- A phase with other offsets. -/
def Phase.mapOffsets (f : Nat → Nat) : Phase → Phase
  | .prolog => .prolog
  | .opening start => .opening (f start)
  | .tag e => .tag (e.mapOffsets f)
  | .attributeName e name start => .attributeName (e.mapOffsets f) name (f start)
  | .attributeEquals e name start => .attributeEquals (e.mapOffsets f) name (f start)
  | .content e => .content (e.mapOffsets f)
  | .closing e start => .closing (e.mapOffsets f) (f start)
  | .closingName e start name => .closingName (e.mapOffsets f) (f start) name
  | .epilog root => .epilog (root.mapOffsets f)

/-- A state with other offsets. -/
def State.mapOffsets (f : Nat → Nat) (s : State) : State :=
  ⟨s.phase.mapOffsets f, s.ancestors.map (·.mapOffsets f), s.depth⟩

/-- An error at another place. -/
def SyntaxError.mapOffset (f : Nat → Nat) (e : SyntaxError) : SyntaxError :=
  { e with offset := f e.offset }

/-- A move with other offsets. -/
def Move.mapOffsets (f : Nat → Nat) : Move → Move
  | .next s => .next (s.mapOffsets f)
  | .accept root => .accept (root.mapOffsets f)
  | .refuse error consumed depth => .refuse (error.mapOffset f) consumed depth

section Machine

variable {f : Nat → Nat} {n : Nat}

theorem mapOffsets_append (nodes more : List Node) :
    mapOffsets f (nodes ++ more) = mapOffsets f nodes ++ mapOffsets f more := by
  induction nodes with
  | nil => rfl
  | cons node rest ih =>
      cases node with
      | text data => exact congrArg (_ :: ·) ih
      | element e => exact congrArg (_ :: ·) ih

theorem OpenElement.addText_mapOffsets (e : OpenElement) (data : CharData) :
    (e.addChild (.text data)).mapOffsets f = (e.mapOffsets f).addChild (.text (data.mapOffsets f)) := by
  rw [mapOffsets, addChild, mapOffsets_append]
  rfl

theorem OpenElement.addElement_mapOffsets (e : OpenElement) (child : Element) :
    (e.addChild (.element child)).mapOffsets f
      = (e.mapOffsets f).addChild (.element (child.mapOffsets f)) := by
  rw [mapOffsets, addChild, mapOffsets_append]
  rfl

theorem OpenElement.addAttribute_mapOffsets (e : OpenElement) (a : Attribute) :
    (e.addAttribute a).mapOffsets f = (e.mapOffsets f).addAttribute (a.mapOffsets f) := by
  rw [mapOffsets, addAttribute, List.map_append]
  rfl

theorem OpenElement.hasAttribute_mapOffsets (e : OpenElement) (name : String) :
    (e.mapOffsets f).hasAttribute name = e.hasAttribute name :=
  List.any_map ..

theorem State.complete_mapOffsets (s : State) (e : Element) :
    (s.mapOffsets f).complete (e.mapOffsets f) = (s.complete e).mapOffsets f := by
  obtain ⟨phase, ancestors, depth⟩ := s
  cases ancestors with
  | nil => rfl
  | cons parent rest =>
      show Move.next ⟨.content ((parent.mapOffsets f).addChild _), _, _⟩ = _
      rw [← OpenElement.addElement_mapOffsets]
      rfl

/-- What a refusal concerns keeps its length. -/
theorem State.refuse_moved (s : State) (fault : Fault) (start stop : Nat) :
    (s.mapOffsets (· + n)).refuse fault (start + n) (stop + n)
      = (s.refuse fault start stop).mapOffsets (· + n) := by
  rw [refuse, refuse, Nat.add_sub_add_right]
  rfl

theorem State.missing_moved (s : State) (t : Token) (expected : Lexeme) :
    (s.mapOffsets (· + n)).missing (t.moved n) expected = (s.missing t expected).mapOffsets (· + n) := by
  rw [missing, missing]
  show (if t.lexeme = .eof then _ else _) = _
  split
  · exact s.refuse_moved _ _ _
  · exact s.refuse_moved _ _ _

theorem State.unexpected_moved (s : State) (t : Token) (expected : Expectation) :
    (s.mapOffsets (· + n)).unexpected (t.moved n) expected
      = (s.unexpected t expected).mapOffsets (· + n) :=
  s.refuse_moved _ _ _

theorem State.stepContent_moved (s : State) (e : OpenElement) (t : Token) :
    (s.mapOffsets (· + n)).stepContent (e.mapOffsets (· + n)) (t.moved n)
      = (s.stepContent e t).mapOffsets (· + n) := by
  obtain ⟨lexeme, start, stop⟩ := t
  cases lexeme with
  | text value =>
      have hchild := e.addText_mapOffsets (f := (· + n)) ⟨value, start, false⟩
      exact congrArg (fun e => goto _ (.content e)) hchild.symm
  | cdata body =>
      have hchild := e.addText_mapOffsets (f := (· + n)) ⟨body, start, true⟩
      exact congrArg (fun e => goto _ (.content e)) hchild.symm
  | tagOpen =>
      rw [stepContent, stepContent]
      show (if s.depth + 1 > maxDepth then _ else _) = _
      split
      · show Move.refuse ⟨_, _, stop + n - (start + n)⟩ _ _ = _
        rw [Nat.add_sub_add_right]
        rfl
      · rfl
  | closeTagOpen => rfl
  | eof => exact s.refuse_moved _ _ _
  | _ => exact s.unexpected_moved _ _

/-- **IN STEP**: on a moved token the machine does what it does on the token, with all offsets moved. -/
theorem State.step_moved (s : State) (t : Token) :
    (s.mapOffsets (· + n)).step (t.moved n) = (s.step t).mapOffsets (· + n) := by
  obtain ⟨phase, ancestors, depth⟩ := s
  obtain ⟨lexeme, start, stop⟩ := t
  cases phase with
  | prolog =>
      cases lexeme with
      | text value =>
          by_cases hblank : Text.allBlank value = true
          · simp only [step, mapOffsets, Phase.mapOffsets, Token.moved, Token.mapOffsets, if_pos hblank,
              Move.mapOffsets]
          · simp only [step, mapOffsets, Phase.mapOffsets, Token.moved, Token.mapOffsets, if_neg hblank]
            exact unexpected_moved ⟨.prolog, ancestors, depth⟩ ⟨.text value, start, stop⟩ .markup
      | tagOpen => rfl
      | _ => exact unexpected_moved _ _ _
  | opening =>
      cases lexeme with
      | name => rfl
      | _ => exact unexpected_moved _ _ _
  | tag e =>
      cases lexeme with
      | name => rfl
      | tagClose => rfl
      | emptyTagClose => exact complete_mapOffsets ⟨.tag e, ancestors, depth⟩ (e.close stop)
      | _ => exact missing_moved _ _ _
  | attributeName e name =>
      cases lexeme with
      | equals => rfl
      | _ => exact missing_moved _ _ _
  | attributeEquals e name first =>
      cases lexeme with
      | attrValue value =>
          simp only [step, mapOffsets, Phase.mapOffsets, Token.moved, Token.mapOffsets,
            e.hasAttribute_mapOffsets]
          split
          · show Move.refuse ⟨_, _, stop + n - (first + n)⟩ _ _ = _
            rw [Nat.add_sub_add_right]
            rfl
          · have hadded := e.addAttribute_mapOffsets (f := (· + n)) ⟨name, value, first, stop⟩
            exact congrArg (fun e => goto _ (.tag e)) hadded.symm
      | _ => exact unexpected_moved _ _ _
  | content e => exact stepContent_moved ⟨.content e, ancestors, depth⟩ e ⟨lexeme, start, stop⟩
  | closing e =>
      cases lexeme with
      | name => rfl
      | _ => exact unexpected_moved _ _ _
  | closingName e first name =>
      by_cases hname : name = e.name
      · have hname' : name = (e.mapOffsets (· + n)).name := hname
        simp only [step, mapOffsets, Phase.mapOffsets, if_pos hname, if_pos hname']
        cases lexeme with
        | tagClose => exact complete_mapOffsets ⟨.closingName e first name, ancestors, depth⟩ (e.close stop)
        | _ => exact missing_moved ⟨.closingName e first name, ancestors, depth⟩ _ _
      · have hname' : name ≠ (e.mapOffsets (· + n)).name := hname
        simp only [step, mapOffsets, Phase.mapOffsets, if_neg hname, if_neg hname']
        exact refuse_moved ⟨.closingName e first name, ancestors, depth⟩ _ _ _
  | epilog root =>
      cases lexeme with
      | text value =>
          by_cases hblank : Text.allBlank value = true
          · simp only [step, mapOffsets, Phase.mapOffsets, Token.moved, Token.mapOffsets, if_pos hblank,
              Move.mapOffsets]
          · simp only [step, mapOffsets, Phase.mapOffsets, Token.moved, Token.mapOffsets, if_neg hblank]
            exact unexpected_moved ⟨.epilog root, ancestors, depth⟩ ⟨.text value, start, stop⟩ .markup
      | eof => rfl
      | _ => exact missing_moved _ _ _

/-- The machine does not go on behind the end. -/
theorem State.step_eof_ne_next (s next : State) {t : Token} (h : t.lexeme = .eof) :
    s.step t ≠ .next next := by
  obtain ⟨phase, ancestors, depth⟩ := s
  cases phase with
  | closingName e start name =>
      rw [step, h]
      dsimp only
      split
      · exact missing_ne_next _ _ _ _
      · nofun
  | content e =>
      show stepContent _ e t ≠ _
      rw [stepContent, h]
      nofun
  | tag e =>
      rw [step, h]
      exact missing_ne_next _ _ _ _
  | attributeName e name start =>
      rw [step, h]
      exact missing_ne_next _ _ _ _
  | _ =>
      rw [step, h]
      nofun

/-- How a run on moved tokens ends.  There is an end among them, so the sizes of the texts make no
    difference. -/
theorem outcome_run_moved (size size' : Nat) (ts : List Token) {last : Token} (hlast : last.lexeme = .eof)
    (s : State) :
    (run size' (s.mapOffsets (· + n)) ((ts ++ [last]).map (·.moved n))).outcome
      = ((run size s (ts ++ [last])).outcome.map (·.mapOffsets (· + n))).mapError (·.mapOffset (· + n)) := by
  induction ts generalizing s with
  | nil =>
      rw [List.nil_append, List.map_singleton, run, run, s.step_moved]
      cases hmove : s.step last with
      | next next => exact absurd hmove (s.step_eof_ne_next next hlast)
      | accept root => rfl
      | refuse error consumed depth => rfl
  | cons t rest ih =>
      rw [List.cons_append, List.map_cons, run, run, s.step_moved]
      cases hmove : s.step t with
      | next next => exact ih next
      | accept root => rfl
      | refuse error consumed depth => rfl

end Machine

/-- **MARKED**: a text behind a mark is read as the text is, or refused as it is, further on. -/
theorem parse_ahead {text : String} (h : text.toList.head? ≠ some Scanner.byteOrderMark) :
    parse ("\uFEFF" ++ text)
      = ((parse text).map (·.mapOffsets (· + Scanner.byteOrderMark.utf8Size))).mapError
        (·.mapOffset (· + Scanner.byteOrderMark.utf8Size)) := by
  obtain ⟨ts, last, hts, hlast, -⟩ := (Scanner.ofText text).significant_eq_append_eof
  have htext : Parser.significant text = ts ++ [last] := hts
  rw [parse, parse, Parser.document, Parser.document, Parser.ofText, Parser.ofText,
    Parser.significant_marked h, htext]
  exact outcome_run_moved _ _ ts hlast (.initial 0)

end Markup

/-! ## Lines further on -/

namespace Text.Lines

theorem startsFrom_add (n offset : Nat) (cs : List Char) :
    startsFrom (offset + n) cs = (startsFrom offset cs).map (· + n) := by
  induction cs generalizing offset with
  | nil => rfl
  | cons c cs ih =>
      rw [startsFrom, startsFrom, Nat.add_right_comm]
      split
      · rw [List.map_cons, ih]
      · rw [ih]

/-- Behind a mark, what stood on a line stands on it. -/
theorem line_marked (text : String) (position : Nat) :
    (ofText ("\uFEFF" ++ text)).line (position + Scanner.byteOrderMark.utf8Size)
      = (ofText text).line position := by
  have hmarked : ("\uFEFF" ++ text).toList = Scanner.byteOrderMark :: text.toList := String.toList_append
  have hne : Scanner.byteOrderMark ≠ '\n' := by decide
  rw [line, line, ofText, ofText, hmarked, startsFrom]
  dsimp only
  rw [if_neg hne, startsFrom_add, List.countP_cons_of_pos (by simp), List.countP_cons_of_pos (by simp),
    List.countP_map]
  congr 2
  funext start
  simp

end Text.Lines

/-! ## What is staged of a moved tree -/

namespace Markup

variable {f : Nat → Nat} {e : Element}

@[simp] theorem Element.name_mapOffsets : (e.mapOffsets f).name = e.name := by
  cases e
  rfl

@[simp] theorem Element.start_mapOffsets : (e.mapOffsets f).start = f e.start := by
  cases e
  rfl

@[simp] theorem Element.attributes_mapOffsets :
    (e.mapOffsets f).attributes = e.attributes.map (·.mapOffsets f) := by
  cases e
  rfl

@[simp] theorem Element.children_mapOffsets : (e.mapOffsets f).children = Markup.mapOffsets f e.children := by
  cases e
  rfl

theorem elements_mapOffsets (nodes : List Node) :
    (mapOffsets f nodes).filterMap Node.element?
      = (nodes.filterMap Node.element?).map (·.mapOffsets f) := by
  induction nodes with
  | nil => rfl
  | cons node rest ih =>
      cases node with
      | text data => exact ih
      | element e => exact congrArg (_ :: ·) ih

theorem texts_mapOffsets (nodes : List Node) :
    (mapOffsets f nodes).filterMap Node.text?
      = (nodes.filterMap Node.text?).map (·.mapOffsets f) := by
  induction nodes with
  | nil => rfl
  | cons node rest ih =>
      cases node with
      | text data => exact congrArg (_ :: ·) ih
      | element e => exact ih

@[simp] theorem Element.elements_mapOffsets : (e.mapOffsets f).elements = e.elements.map (·.mapOffsets f) := by
  rw [elements, children_mapOffsets, Markup.elements_mapOffsets, elements]

@[simp] theorem Element.hasElements_mapOffsets : (e.mapOffsets f).hasElements = e.hasElements := by
  rw [hasElements, hasElements, elements_mapOffsets, List.isEmpty_map]

@[simp] theorem Element.text_mapOffsets : (e.mapOffsets f).text = e.text := by
  rw [text, text, children_mapOffsets, texts_mapOffsets, List.map_map]
  rfl

@[simp] theorem Element.attribute?_mapOffsets (name : String) :
    (e.mapOffsets f).attribute? name = e.attribute? name := by
  rw [attribute?, attribute?, attributes_mapOffsets, List.find?_map, Option.map_map]
  rfl

@[simp] theorem Element.strayText?_mapOffsets :
    (e.mapOffsets f).strayText? = e.strayText?.map (·.mapOffsets f) := by
  rw [strayText?, strayText?, children_mapOffsets, texts_mapOffsets, List.find?_map]
  rfl

end Markup

namespace Staging

variable {s : Staging} {lines : Text.Lines} {f : Nat → Nat}
  (hlines : ∀ offset, lines.line (f offset) = s.lines.line offset)

include hlines

theorem lineAt_mapOffsets (offset : Nat) : { s with lines }.lineAt (f offset) = s.lineAt offset :=
  hlines offset

theorem location_mapOffsets (e : Element) : { s with lines }.location (e.mapOffsets f) = s.location e := by
  rw [location, location, e.start_mapOffsets, lineAt_mapOffsets hlines]

theorem reject_mapOffsets {α : Type} (kind : DiagnosticKind) (e : Element) (message : String) :
    ({ s with lines }.reject kind (e.mapOffsets f) message : Noted (Option α)) = s.reject kind e message := by
  rw [reject, reject, error, error, e.start_mapOffsets, lineAt_mapOffsets hlines]

theorem warn_mapOffsets (offset : Nat) (message : String) :
    { s with lines }.warn (f offset) message = s.warn offset message := by
  rw [warn, warn, lineAt_mapOffsets hlines]

theorem warnStrayText_mapOffsets (e : Element) (message : String) :
    { s with lines }.warnStrayText (e.mapOffsets f) message = s.warnStrayText e message := by
  rw [warnStrayText, warnStrayText, e.strayText?_mapOffsets]
  cases e.strayText? with
  | none => rfl
  | some data => exact warn_mapOffsets hlines data.start message

theorem scalar_mapOffsets (e : Element) (converter : String) :
    { s with lines }.scalar (e.mapOffsets f) converter = s.scalar e converter := by
  simp only [scalar, Element.hasElements_mapOffsets, Element.text_mapOffsets, Element.name_mapOffsets,
    reject_mapOffsets hlines]

theorem reference_mapOffsets (e : Element) :
    { s with lines }.reference (e.mapOffsets f) = s.reference e := by
  simp only [reference, Element.hasElements_mapOffsets, Element.text_mapOffsets, Element.name_mapOffsets,
    reject_mapOffsets hlines]

theorem objectType?_mapOffsets (e : Element) (declared : String) :
    { s with lines }.objectType? (e.mapOffsets f) declared = s.objectType? e declared := by
  simp only [objectType?, findType?, Element.attribute?_mapOffsets, Element.name_mapOffsets,
    reject_mapOffsets hlines]

theorem overrideAction_mapOffsets (e : Element) :
    { s with lines }.overrideAction (e.mapOffsets f) = s.overrideAction e := by
  simp only [overrideAction, Element.attribute?_mapOffsets, Element.name_mapOffsets,
    reject_mapOffsets hlines]

mutual

theorem value_mapOffsets : ∀ (e : Element) (type : FieldType),
    { s with lines }.value (e.mapOffsets f) type = s.value e type
  | ⟨name, attributes, children, start, stop⟩, .scalar converter => by
      rw [Element.mapOffsets, value, value]
      exact scalar_mapOffsets hlines ⟨name, attributes, children, start, stop⟩ converter
  | ⟨name, attributes, children, start, stop⟩, .reference _ => by
      rw [Element.mapOffsets, value, value]
      exact reference_mapOffsets hlines ⟨name, attributes, children, start, stop⟩
  | ⟨name, attributes, children, start, stop⟩, .object declared => by
      have htype := objectType?_mapOffsets hlines ⟨name, attributes, children, start, stop⟩ declared
      have hstray := warnStrayText_mapOffsets hlines ⟨name, attributes, children, start, stop⟩
      have hplace := location_mapOffsets hlines ⟨name, attributes, children, start, stop⟩
      rw [Element.mapOffsets] at htype hstray hplace ⊢
      simp only [value, htype, hstray, hplace, statements_mapOffsets _ children]
  | ⟨name, attributes, children, start, stop⟩, .collection kind element => by
      have haction := overrideAction_mapOffsets hlines ⟨name, attributes, children, start, stop⟩
      have hstray := warnStrayText_mapOffsets hlines ⟨name, attributes, children, start, stop⟩
      rw [Element.mapOffsets] at haction hstray ⊢
      simp only [value, haction, hstray, entries_mapOffsets element children]

theorem statements_mapOffsets (type : Descriptor) : ∀ nodes : List Node,
    { s with lines }.statements type (mapOffsets f nodes) = s.statements type nodes
  | [] => rfl
  | .text _ :: rest => statements_mapOffsets type rest
  | .element e :: rest => by
      rw [mapOffsets, statements, statements, statements_mapOffsets type rest]
      simp only [Element.name_mapOffsets, reject_mapOffsets hlines, location_mapOffsets hlines,
        value_mapOffsets e]

theorem entries_mapOffsets (element : FieldType) : ∀ nodes : List Node,
    { s with lines }.entries element (mapOffsets f nodes) = s.entries element nodes
  | [] => rfl
  | .text _ :: rest => entries_mapOffsets element rest
  | .element e :: rest => by
      rw [mapOffsets, entries, entries, entries_mapOffsets element rest]
      simp only [Element.name_mapOffsets, reject_mapOffsets hlines, value_mapOffsets e]

end

theorem object_mapOffsets (e : Element) (type : Descriptor) :
    { s with lines }.object (e.mapOffsets f) type = s.object e type := by
  simp only [object, Element.name_mapOffsets, Element.children_mapOffsets,
    warnStrayText_mapOffsets hlines, statements_mapOffsets hlines, location_mapOffsets hlines]

theorem abstractMark_mapOffsets (e : Element) (id : String) :
    { s with lines }.abstractMark (e.mapOffsets f) id = s.abstractMark e id := by
  simp only [abstractMark, Element.attribute?_mapOffsets, Element.start_mapOffsets,
    warn_mapOffsets hlines]

theorem warnAttributes_mapOffsets (id : String) (attributes : List Attribute) :
    { s with lines }.warnAttributes id (attributes.map (Attribute.mapOffsets f)) = s.warnAttributes id attributes := by
  induction attributes with
  | nil => rfl
  | cons a rest ih =>
      have hwarn := warn_mapOffsets hlines a.start
      rw [List.map_cons, warnAttributes, warnAttributes, ih]
      simp only [Attribute.mapOffsets, hwarn]

theorem itemType?_mapOffsets (e : Element) (id : String) (container : Descriptor) :
    { s with lines }.itemType? (e.mapOffsets f) id container = s.itemType? e id container := by
  simp only [itemType?, findType?, Element.attribute?_mapOffsets, reject_mapOffsets hlines]

theorem item?_mapOffsets (container : Descriptor) (e : Element) :
    { s with lines }.item? container (e.mapOffsets f) = s.item? container e := by
  simp only [item?, word?, Element.attribute?_mapOffsets, Element.name_mapOffsets,
    Element.attributes_mapOffsets, reject_mapOffsets hlines, abstractMark_mapOffsets hlines,
    warnAttributes_mapOffsets hlines, itemType?_mapOffsets hlines, object_mapOffsets hlines]

theorem items_mapOffsets (container : Descriptor) (es : List Element) :
    { s with lines }.items container (es.map (Element.mapOffsets f)) = s.items container es := by
  induction es with
  | nil => rfl
  | cons e rest ih => rw [List.map_cons, items, items, item?_mapOffsets hlines, ih]

theorem containerType?_mapOffsets (root : Element) :
    { s with lines }.containerType? (root.mapOffsets f) = s.containerType? root := by
  simp only [containerType?, findType?, Element.attribute?_mapOffsets, Element.name_mapOffsets,
    reject_mapOffsets hlines]

/-- **STAGED ALIKE**: a tree with other offsets is staged alike where what stood on a line stands on it. -/
theorem document_mapOffsets (root : Element) :
    { s with lines }.document (root.mapOffsets f) = s.document root := by
  simp only [document, container, containerType?_mapOffsets hlines, warnStrayText_mapOffsets hlines,
    Element.elements_mapOffsets, items_mapOffsets hlines]

end Staging

/-! ## Sessions -/

namespace Session

/-- A document behind a mark is staged as it is without it, or reported as refused at the same line. -/
theorem stage_marked (registry : Registry) (options : Options) (preferred name : String) {text : String}
    (h : text.toList.head? ≠ some Scanner.byteOrderMark) :
    stage registry options preferred ⟨name, "\uFEFF" ++ text⟩ = stage registry options preferred ⟨name, text⟩ := by
  have hlines := Text.Lines.line_marked text
  rw [stage, stage]
  dsimp only
  rw [parse_ahead h]
  cases Markup.parse text with
  | ok root =>
      exact congrArg (fun staged => Noted.gather staged >>= _)
        (Staging.document_mapOffsets (s := ⟨registry, options, preferred, name, .ofText text⟩) hlines root)
  | error error =>
      show (Noted.report _ _ _ ((Text.Lines.ofText _).line (error.offset + _)) _ >>= _) = _
      rw [hlines]
      rfl

/-- **NOTHING BUT OFFSETS**: a byte-order mark in front of a document makes no difference, whatever it is parsed
    with and whether it is accepted: neither to what is created, nor to the session after it, with its
    definitions, its diagnostics and its log. -/
theorem parse_marked (s : Session) (before after : List Document) (name preferred : String) {text : String}
    (h : text.toList.head? ≠ some Scanner.byteOrderMark) :
    s.parse (before ++ ⟨name, "\uFEFF" ++ text⟩ :: after) preferred
      = s.parse (before ++ ⟨name, text⟩ :: after) preferred := by
  have hstaged : stageAll s.registry s.options preferred (before ++ ⟨name, "\uFEFF" ++ text⟩ :: after)
      = stageAll s.registry s.options preferred (before ++ ⟨name, text⟩ :: after) := by
    induction before with
    | nil => rw [List.nil_append, List.nil_append, stageAll, stageAll, stage_marked _ _ _ _ h]
    | cons document rest ih => rw [List.cons_append, List.cons_append, stageAll, stageAll, ih]
  rw [parse, parse, hstaged]

/-! ### A scroll, and a broken one -/

/-- The second item has no id. -/
def scrollText : String :=
  "<S Type=\"Scroll\">\n<Item Id=\"a\"/>\n<Item/></S>"

/-- It breaks off in its first tag. -/
def brokenText : String :=
  "\n<S Type"

theorem scroll_marked :
    let s := start ⟨[Descriptor.prototype "Scroll"], .builtin⟩ {} .empty
    let marked := s.parse [⟨"a", "\uFEFF" ++ scrollText⟩, ⟨"b", "\uFEFF" ++ brokenText⟩] ""
    scrollText.toList.head? ≠ some Scanner.byteOrderMark ∧
      brokenText.toList.head? ≠ some Scanner.byteOrderMark ∧
      marked.1.map (·.id) = ["a"] ∧
      marked.2.diagnostics.map (fun d => (d.file, d.line)) = [("a", 3), ("b", 2)] ∧
      marked = s.parse [⟨"a", scrollText⟩, ⟨"b", brokenText⟩] "" := by
  intro s marked
  have hscroll : scrollText.toList.head? ≠ some Scanner.byteOrderMark := by decide
  have hbroken : brokenText.toList.head? ≠ some Scanner.byteOrderMark := by decide
  refine ⟨hscroll, hbroken, by decide +kernel, by decide +kernel, ?_⟩
  exact (s.parse_marked [] [⟨"b", "\uFEFF" ++ brokenText⟩] "a" "" hscroll).trans
    (s.parse_marked [⟨"a", scrollText⟩] [] "b" "" hbroken)

end Session

end Archetype
