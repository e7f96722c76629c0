import Archetype.Markup.Parser

/-! # The grammar of documents

    What the tokens of a document look like, and which tree they stand for, said without the machine that
    reads them.  `DerivesElement ts e`: the tokens `ts` are those of the element `e`, from the `<` of its
    first tag to the `>` of its last, with the offsets of `e` taken from them.

    Two conditions go beyond the form of the tokens.  Attributes of one element have different names, which
    the rules ask for, and elements do not nest too deeply, which is a property of the tree
    (`Element.nesting`) and is asked for where it is needed.

    The grammar is unambiguous (`DerivesElement.unique`, `DerivesDocument.unique`).  The heart is that every
    rule is told by the first token of what it derives, and that a row of attributes or of children ends
    where a token stands that none of them begins with: so of two derivations that start at one place neither
    can go on where the other ends. -/

namespace Archetype.Markup

/-! ## Levels -/

mutual

/-- How many levels of elements there are below an element. -/
def Element.nesting : Element → Nat
  | ⟨_, _, children, _, _⟩ => levels children

/-- How many levels of elements there are in a row of nodes. -/
def levels : List Node → Nat
  | [] => 0
  | .text _ :: rest => levels rest
  | .element e :: rest => max (e.nesting + 1) (levels rest)

end

@[simp] theorem levels_nil : levels [] = 0 := rfl

@[simp] theorem levels_text (data : CharData) (rest : List Node) :
    levels (.text data :: rest) = levels rest := rfl

@[simp] theorem levels_element (e : Element) (rest : List Node) :
    levels (.element e :: rest) = max (e.nesting + 1) (levels rest) := rfl

theorem levels_append (left right : List Node) :
    levels (left ++ right) = max (levels left) (levels right) := by
  induction left with
  | nil => simp
  | cons node rest ih => cases node <;> simp [ih, Nat.max_assoc]

/-! ## The rules -/

/-- Text that trims to nothing. -/
def Token.IsBlank (t : Token) : Prop :=
  ∃ value, t.lexeme = .text value ∧ Text.trimmed value = ""

/-- A row of attributes: for each a name, an equals sign and a value. -/
inductive DerivesAttributes : List Token → List Attribute → Prop
  | nil : DerivesAttributes [] []
  | cons {name equals value : Token} {n v : String} {ts : List Token} {as : List Attribute}
      (hname : name.lexeme = .name n) (hequals : equals.lexeme = .equals)
      (hvalue : value.lexeme = .attrValue v) (hrest : DerivesAttributes ts as) :
      DerivesAttributes (name :: equals :: value :: ts) (⟨n, v, name.start, value.stop⟩ :: as)

/-- The first tag of an element up to the mark that ends it: its `<`, at `start`, its name and its
    attributes. -/
inductive DerivesTag : List Token → String → List Attribute → Nat → Prop
  | mk {opening name : Token} {n : String} {ts : List Token} {as : List Attribute}
      (hopening : opening.lexeme = .tagOpen) (hname : name.lexeme = .name n)
      (hattributes : DerivesAttributes ts as) (hdistinct : (as.map (·.name)).Nodup) :
      DerivesTag (opening :: name :: ts) n as opening.start

mutual

/-- An element: one tag, or a first tag, children and a last tag of the same name. -/
inductive DerivesElement : List Token → Element → Prop
  | empty {ts : List Token} {n : String} {as : List Attribute} {start : Nat} {closing : Token}
      (htag : DerivesTag ts n as start) (hclosing : closing.lexeme = .emptyTagClose) :
      DerivesElement (ts ++ [closing]) ⟨n, as, [], start, closing.stop⟩
  | filled {ts us : List Token} {n : String} {as : List Attribute} {children : List Node} {start : Nat}
      {middle opening name closing : Token} (htag : DerivesTag ts n as start)
      (hmiddle : middle.lexeme = .tagClose) (hcontent : DerivesContent us children)
      (hopening : opening.lexeme = .closeTagOpen) (hname : name.lexeme = .name n)
      (hclosing : closing.lexeme = .tagClose) :
      DerivesElement (ts ++ middle :: (us ++ [opening, name, closing]))
        ⟨n, as, children, start, closing.stop⟩

/-- A row of children: texts, character data sections and elements. -/
inductive DerivesContent : List Token → List Node → Prop
  | nil : DerivesContent [] []
  | text {t : Token} {value : String} {ts : List Token} {nodes : List Node}
      (ht : t.lexeme = .text value) (hrest : DerivesContent ts nodes) :
      DerivesContent (t :: ts) (.text ⟨value, t.start, false⟩ :: nodes)
  | cdata {t : Token} {body : String} {ts : List Token} {nodes : List Node}
      (ht : t.lexeme = .cdata body) (hrest : DerivesContent ts nodes) :
      DerivesContent (t :: ts) (.text ⟨body, t.start, true⟩ :: nodes)
  | element {ts us : List Token} {e : Element} {nodes : List Node} (helement : DerivesElement ts e)
      (hrest : DerivesContent us nodes) : DerivesContent (ts ++ us) (.element e :: nodes)

end

/-- A document: one element between blank texts, and the end. -/
inductive DerivesDocument : List Token → Element → Prop
  | mk {before ts after : List Token} {last : Token} {root : Element}
      (hbefore : ∀ t ∈ before, t.IsBlank) (helement : DerivesElement ts root)
      (hafter : ∀ t ∈ after, t.IsBlank) (hlast : last.lexeme = .eof) :
      DerivesDocument (before ++ (ts ++ (after ++ [last]))) root

/-! ## One derivation at most -/

section Unique

variable {ts us vs ws : List Token} {t u : Token}

theorem DerivesTag.head {n : String} {as : List Attribute} {start : Nat} (h : DerivesTag ts n as start) :
    ∃ opening rest, ts = opening :: rest ∧ opening.lexeme = .tagOpen := by
  cases h with
  | mk hopening => exact ⟨_, _, rfl, hopening⟩

theorem DerivesElement.head {e : Element} (h : DerivesElement ts e) :
    ∃ opening rest, ts = opening :: rest ∧ opening.lexeme = .tagOpen := by
  cases h with
  | empty htag =>
      obtain ⟨opening, rest, rfl, hopening⟩ := htag.head
      exact ⟨opening, _, rfl, hopening⟩
  | filled htag =>
      obtain ⟨opening, rest, rfl, hopening⟩ := htag.head
      exact ⟨opening, _, rfl, hopening⟩

/-- Two rows of attributes that start at one place, each before a token that is no name, are one. -/
theorem DerivesAttributes.unique {as bs : List Attribute} (h : DerivesAttributes ts as)
    (k : DerivesAttributes us bs) (ht : ∀ n, t.lexeme ≠ .name n) (hu : ∀ n, u.lexeme ≠ .name n)
    (heq : ts ++ t :: vs = us ++ u :: ws) : ts = us ∧ as = bs := by
  induction h generalizing us bs with
  | nil =>
      cases k with
      | nil => exact ⟨rfl, rfl⟩
      | cons hname =>
          injection heq with hhead
          exact absurd (hhead ▸ hname) (ht _)
  | cons hname hequals hvalue hrest ih =>
      cases k with
      | nil =>
          injection heq with hhead
          exact absurd (hhead ▸ hname) (hu _)
      | cons hname' hequals' hvalue' hrest' =>
          injection heq with hfirst htail
          injection htail with hsecond htail
          injection htail with hthird htail
          subst hfirst hsecond hthird
          obtain ⟨rfl, rfl⟩ := ih hrest' htail
          rw [hname] at hname'
          rw [hvalue] at hvalue'
          cases hname'
          cases hvalue'
          exact ⟨rfl, rfl⟩

theorem DerivesTag.unique {n m : String} {as bs : List Attribute} {start begin : Nat}
    (h : DerivesTag ts n as start) (k : DerivesTag us m bs begin) (ht : ∀ n, t.lexeme ≠ .name n)
    (hu : ∀ n, u.lexeme ≠ .name n) (heq : ts ++ t :: vs = us ++ u :: ws) :
    ts = us ∧ n = m ∧ as = bs ∧ start = begin ∧ t = u ∧ vs = ws := by
  cases h with
  | mk hopening hname hattributes =>
      cases k with
      | mk hopening' hname' hattributes' =>
          injection heq with hfirst htail
          injection htail with hsecond htail
          subst hfirst hsecond
          obtain ⟨rfl, rfl⟩ := hattributes.unique hattributes' ht hu htail
          rw [hname] at hname'
          cases hname'
          have hrest := List.append_cancel_left htail
          injection hrest with hmark hrest
          exact ⟨rfl, rfl, rfl, rfl, hmark, hrest⟩

mutual

/-- **UNAMBIGUOUS**: two elements that start at one place are one. -/
theorem DerivesElement.unique {ts us vs ws : List Token} {e f : Element} (h : DerivesElement ts e)
    (k : DerivesElement us f) (heq : ts ++ vs = us ++ ws) : ts = us ∧ e = f := by
  cases h with
  | empty htag hclosing =>
      cases k with
      | empty htag' hclosing' =>
          rw [List.append_assoc, List.append_assoc] at heq
          obtain ⟨rfl, rfl, rfl, rfl, rfl, -⟩ := htag.unique htag'
            (by simp [hclosing]) (by simp [hclosing']) heq
          exact ⟨rfl, rfl⟩
      | filled htag' hmiddle' =>
          rw [List.append_assoc, List.append_assoc] at heq
          obtain ⟨-, -, -, -, rfl, -⟩ := htag.unique htag'
            (by simp [hclosing]) (by simp [hmiddle']) heq
          rw [hclosing] at hmiddle'
          cases hmiddle'
  | filled htag hmiddle hcontent hopening hname hclosing =>
      cases k with
      | empty htag' hclosing' =>
          rw [List.append_assoc, List.append_assoc] at heq
          obtain ⟨-, -, -, -, rfl, -⟩ := htag.unique htag'
            (by simp [hmiddle]) (by simp [hclosing']) heq
          rw [hmiddle] at hclosing'
          cases hclosing'
      | filled htag' hmiddle' hcontent' hopening' hname' hclosing' =>
          rw [List.append_assoc, List.append_assoc, List.cons_append, List.cons_append] at heq
          obtain ⟨rfl, rfl, rfl, rfl, rfl, hrest⟩ := htag.unique htag'
            (by simp [hmiddle]) (by simp [hmiddle']) heq
          rw [List.append_assoc, List.append_assoc] at hrest
          obtain ⟨rfl, rfl⟩ := DerivesContent.unique hcontent hcontent' hopening hopening' hrest
          have hlast := List.append_cancel_left hrest
          injection hlast with hfirst hlast
          injection hlast with hsecond hlast
          injection hlast with hthird hlast
          subst hfirst hsecond hthird
          exact ⟨rfl, rfl⟩

/-- Two rows of children that start at one place, each before the opener of a last tag, are one. -/
theorem DerivesContent.unique {ts us vs ws : List Token} {t u : Token} {nodes others : List Node}
    (h : DerivesContent ts nodes) (k : DerivesContent us others) (ht : t.lexeme = .closeTagOpen)
    (hu : u.lexeme = .closeTagOpen) (heq : ts ++ t :: vs = us ++ u :: ws) :
    ts = us ∧ nodes = others := by
  cases h with
  | nil =>
      cases k with
      | nil => exact ⟨rfl, rfl⟩
      | _ => grind [DerivesElement.head]
  | text hvalue hrest =>
      cases k with
      | text hvalue' hrest' =>
          injection heq with hhead htail
          subst hhead
          obtain ⟨rfl, rfl⟩ := DerivesContent.unique hrest hrest' ht hu htail
          rw [hvalue] at hvalue'
          cases hvalue'
          exact ⟨rfl, rfl⟩
      | _ => grind [DerivesElement.head]
  | cdata hvalue hrest =>
      cases k with
      | cdata hvalue' hrest' =>
          injection heq with hhead htail
          subst hhead
          obtain ⟨rfl, rfl⟩ := DerivesContent.unique hrest hrest' ht hu htail
          rw [hvalue] at hvalue'
          cases hvalue'
          exact ⟨rfl, rfl⟩
      | _ => grind [DerivesElement.head]
  | element helement hrest =>
      cases k with
      | element helement' hrest' =>
          rw [List.append_assoc, List.append_assoc] at heq
          obtain ⟨rfl, rfl⟩ := DerivesElement.unique helement helement' heq
          obtain ⟨rfl, rfl⟩ := DerivesContent.unique hrest hrest' ht hu (List.append_cancel_left heq)
          exact ⟨rfl, rfl⟩
      | _ => grind [DerivesElement.head]

end

/-- Where blanks end and an element begins is told by the tokens. -/
private theorem blanks_unique {before others : List Token} (hbefore : ∀ t ∈ before, t.IsBlank)
    (hothers : ∀ t ∈ others, t.IsBlank) (ht : t.lexeme = .tagOpen) (hu : u.lexeme = .tagOpen)
    (heq : before ++ t :: vs = others ++ u :: ws) : before = others := by
  have hne : ∀ t : Token, t.lexeme = .tagOpen → ¬t.IsBlank := by
    rintro t ht ⟨value, htext, -⟩
    rw [ht] at htext
    cases htext
  induction before generalizing others with
  | nil =>
      cases others with
      | nil => rfl
      | cons other rest =>
          injection heq with hhead
          exact absurd (hhead ▸ hothers other List.mem_cons_self) (hne t ht)
  | cons first rest ih =>
      cases others with
      | nil =>
          injection heq with hhead
          exact absurd (hhead ▸ hbefore first List.mem_cons_self) (hne u hu)
      | cons other more =>
          injection heq with hhead htail
          rw [hhead, ih (fun t h => hbefore t (List.mem_cons_of_mem _ h))
            (fun t h => hothers t (List.mem_cons_of_mem _ h)) htail]

/-- Two elements that start at one place after blanks are one. -/
theorem DerivesElement.unique_of_blanks {before others : List Token} {e f : Element} (h : DerivesElement ts e)
    (k : DerivesElement us f) (hbefore : ∀ t ∈ before, t.IsBlank) (hothers : ∀ t ∈ others, t.IsBlank)
    (heq : before ++ (ts ++ vs) = others ++ (us ++ ws)) : e = f := by
  obtain ⟨opening, rest, rfl, hopening⟩ := h.head
  obtain ⟨opening', rest', rfl, hopening'⟩ := k.head
  have hsame := blanks_unique hbefore hothers hopening hopening' heq
  subst hsame
  exact (h.unique k (List.append_cancel_left heq)).2

/-- The tokens of a document stand for one tree. -/
theorem DerivesDocument.unique {root other : Element} (h : DerivesDocument ts root)
    (k : DerivesDocument ts other) : root = other := by
  cases h with
  | @mk before us after last _ hbefore helement hafter hlast =>
      generalize htokens : before ++ (us ++ (after ++ [last])) = tokens at k
      cases k with
      | mk hbefore' helement' => exact helement.unique_of_blanks helement' hbefore hbefore' htokens

end Unique

end Archetype.Markup
