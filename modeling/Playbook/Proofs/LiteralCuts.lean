import Playbook.Proofs.LiteralGrammar

/-! # Where an accepted text is cut decides its answer

The beginning of a text holds the tokens that end in it, and perhaps a part of the next one. If the
text was a record, a beginning with the closing brace is the same record, a beginning that ends
inside a literal names that literal as not terminated, and any other asks for more.

## Implementation notes

The part of a token that a beginning ends in is the token in progress there. It tells the three
answers apart: nothing, a word, or a literal. -/

namespace Playbook

/-- Literals are neither names nor marks. -/
theorem Delimiter.tokenKind_ne (delimiter : Delimiter) :
    delimiter.tokenKind ≠ .identifier ∧ delimiter.tokenKind ≠ .mark := by
  cases delimiter <;> decide

/-- The class of a literal tells its delimiter. -/
theorem Delimiter.tokenKind_injective {a b : Delimiter} (h : a.tokenKind = b.tokenKind) :
    a = b := by
  cases a <;> cases b <;> first | rfl | exact absurd h (by decide)

namespace Token

/-- The first characters of a text. -/
def cutAt (text : Text) (n : Nat) : Text := Text.ofList (text.toList.take n)

theorem cutAt_append (text more : Text) : cutAt (text ++ more) text.length = text := by
  rw [cutAt, Text.toList_append, ← Text.length_toList, List.take_left, Text.ofList_toList]

/-- A position lies strictly inside a token: after its first character and before its end. -/
def Inside (n : Nat) (token : Token) : Prop := token.position < n ∧ n < token.stop

/-- A beginning of a text holds the tokens that end in it and no part of another. -/
structure CleanCut (text : Text) (n : Nat) (first more : List Token) : Prop where
  scanned : scan (cutAt text n) = .ok first
  before : ∀ token ∈ first, token.stop ≤ n
  after : ∀ token ∈ more, n ≤ token.position

/-- A beginning of a text holds the tokens that end in it and a part of the next one, which is the
token in progress there. -/
structure TornCut (text : Text) (n : Nat) (first : List Token) (p : Pending) (token : Token)
    (rest : List Token) : Prop where
  scanned : scan (cutAt text n) = p.finish.map fun last => first ++ [last]
  before : ∀ token ∈ first, token.stop ≤ n
  valid : p.Valid
  becomes : p.Becomes token
  held : p.position + p.chars.length = n
  after : ∀ token ∈ rest, n ≤ token.position

/-- A text that is scanned is scanned in two pieces, wherever it is cut. -/
theorem scan_take_drop {text : Text} {tokens : List Token} (h : scan text = .ok tokens) {n : Nat}
    (hn : n ≤ text.length) :
    ∃ first next more, feedAll none 0 (text.toList.take n) = .ok (first, next) ∧
      scanFrom next n (text.toList.drop n) = .ok more ∧ tokens = first ++ more := by
  have hlength : (text.toList.take n).length = n := by
    rw [List.length_take, Text.length_toList]
    omega
  rw [scan, ← List.take_append_drop n text.toList] at h
  cases hfeed : feedAll none 0 (text.toList.take n) with
  | error fault =>
      rw [scanFrom_append_of_error hfeed] at h
      exact nomatch h
  | ok result =>
      obtain ⟨first, next⟩ := result
      rw [scanFrom_append hfeed, Nat.zero_add, hlength] at h
      obtain ⟨more, hmore, hall⟩ := map_eq_ok.mp h
      exact ⟨first, next, more, rfl, hmore, hall.symm⟩

/-- The tokens of a beginning are those it completes and the one it has in progress. -/
theorem scan_cutAt_eq {text : Text} {n : Nat} {first : List Token} {next : Option Pending}
    (h : feedAll none 0 (text.toList.take n) = .ok (first, next)) :
    scan (cutAt text n) = (settle next).map (first ++ ·) := by
  calc
    scan (cutAt text n) = scanFrom none 0 (text.toList.take n ++ []) := by
      rw [scan, cutAt, Text.toList_ofList, List.append_nil]
    _ = (scanFrom next (0 + (text.toList.take n).length) []).map (first ++ ·) := by
      rw [scanFrom_append h]
    _ = (settle next).map (first ++ ·) := by rw [scanFrom_nil]

/-- Every beginning of a text that is scanned ends between two tokens or in a token. -/
theorem scan_cutAt {text : Text} {tokens : List Token} (h : scan text = .ok tokens) {n : Nat}
    (hn : n ≤ text.length) :
    ∃ first more, tokens = first ++ more ∧
      (CleanCut text n first more ∨
        ∃ p token rest, more = token :: rest ∧ TornCut text n first p token rest) := by
  obtain ⟨first, next, more, hfeed, hmore, rfl⟩ := scan_take_drop h hn
  have hcut := scan_cutAt_eq hfeed
  obtain ⟨done, hdone, htiled, hready⟩ := feedAll_tiled (ready_none 0) hfeed
  have hsum : done.length + (held next).length = n := by
    have hlength := congrArg List.length hdone
    simp only [held_none, List.nil_append, List.length_append, List.length_take,
      Text.length_toList] at hlength
    omega
  have hbefore : ∀ token ∈ first, token.stop ≤ n := by
    intro token htoken
    have := (htiled.bounds htoken).2
    omega
  refine ⟨first, more, rfl, ?_⟩
  cases next with
  | none =>
      refine .inl ⟨by simpa [settle] using hcut, hbefore, ?_⟩
      intro token htoken
      exact ((scanFrom_tiled (ready_none n) hmore).bounds htoken).1
  | some p =>
      obtain ⟨hp, hposition⟩ := ready_some.mp hready
      obtain ⟨token, rest, rfl, hbecomes⟩ := scanFrom_some_eq_ok hp hmore
      have hheld : p.position + p.chars.length = n := by
        rw [held_some] at hsum
        omega
      have hfinish : scan (cutAt text n) = p.finish.map fun last => first ++ [last] := by
        simpa [settle, map_map] using hcut
      refine .inr ⟨p, token, rest, rfl, hfinish, hbefore, hp, hbecomes, hheld, ?_⟩
      intro later hlater
      have hrest : Tiled p.position (token :: rest) (p.chars ++ text.toList.drop n) := by
        apply scanFrom_tiled (ready_some.mpr ⟨hp, rfl⟩)
        rw [held_some, hheld]
        exact hmore
      have hstop := (List.pairwise_cons.mp hrest.pairwise).1 later hlater
      have hposition := hbecomes.position
      have hlonger := hbecomes.length
      simp only [stop] at hstop
      omega

/-- A part of an identifier is an identifier, and a part of a literal is a literal that is not
closed. The other tokens are out of the question in a record. -/
theorem TornCut.part {text : Text} {n : Nat} {first rest : List Token} {p : Pending}
    {token : Token} (h : TornCut text n first p token rest)
    (hkind : token.kind ∈ [TokenKind.identifier, .quoted, .raw, .mark]) :
    (∃ part : Token, scan (cutAt text n) = .ok (first ++ [part]) ∧ part.kind = .identifier ∧
        Lexeme part.kind part.text.toList ∧ token.kind = .identifier) ∨
      ∃ delimiter : Delimiter, scan (cutAt text n) = .error ⟨delimiter, token.position⟩ ∧
        token.kind = delimiter.tokenKind ∧ Inside n token := by
  obtain ⟨hscan, -, hvalid, hbecomes, hheld, -⟩ := h
  have hchars := List.length_pos_of_ne_nil hvalid.ne_nil
  have hposition := hbecomes.position
  have hlonger := hbecomes.longer
  have hbecome := hbecomes.kind
  obtain ⟨form, chars, position⟩ := p
  cases form with
  | word =>
      refine .inl ⟨⟨.identifier, Text.ofList chars, position⟩, hscan, rfl, ?_, hbecome⟩
      rw [Text.toList_ofList]
      exact hvalid
  | number exponent =>
      have hnumber : token.kind = .number := hbecome
      simp [hnumber] at hkind
  | point =>
      rcases hbecome with hnumber | hstray
      · simp [hnumber] at hkind
      · simp [hstray] at hkind
  | literal delimiter escaped =>
      refine .inr ⟨delimiter, ?_, hbecome, ?_⟩
      · rw [hscan, hposition]
        rfl
      · have := hlonger delimiter escaped rfl
        simp only at this hchars hheld hposition
        constructor
        · omega
        · simp only [stop, ← Text.length_toList] at this ⊢
          omega

end Token

namespace Record

open Token

/-- Only an open record takes another token. -/
theorem Progress.Takes.record?_eq_none {progress next : Progress} {token : Token}
    (h : Takes progress token next) : progress.record? = none := by
  cases h <;> rfl

/-- Where a token that may grow is taken, any other that is alike is too, and the record stays
open. -/
theorem Progress.Takes.exists_of_alike {progress next : Progress} {token other : Token}
    (h : Takes progress token next) (halike : Alike token other)
    (hlexeme : Lexeme token.kind token.text.toList)
    (hlexeme' : Lexeme other.kind other.text.toList) :
    ∃ reached, Takes progress other reached ∧ reached.record? = none := by
  obtain ⟨hmark, hmark'⟩ : token.kind ≠ .mark ∧ other.kind ≠ .mark := by
    cases halike with
    | names ha hb => simp [ha, hb]
    | others ha hb => rcases ha with ha | ha <;> rcases hb with hb | hb <;> simp [ha, hb]
  cases h with
  | kind hkind =>
      cases halike with
      | names _ hb => exact ⟨_, .kind hb, rfl⟩
      | others ha => rcases ha with ha | ha <;> simp [ha] at hkind
  | key => exact ⟨_, .key (text_ne_of_kind hlexeme' isMark_closing hmark') hmark', rfl⟩
  | opening htext => exact absurd htext (text_ne_of_kind hlexeme isMark_opening hmark)
  | noField htext | closing htext =>
      exact absurd htext (text_ne_of_kind hlexeme isMark_closing hmark)
  | colon htext => exact absurd htext (text_ne_of_kind hlexeme isMark_colon hmark)
  | comma htext => exact absurd htext (text_ne_of_kind hlexeme isMark_comma hmark)
  | value hkind =>
      cases halike with
      | names ha => simp [ha] at hkind
      | others ha => rcases ha with ha | ha <;> simp [ha] at hkind

namespace Layout

variable {text : Text} {record : Record} {n : Nat} {token : Token}

theorem closing_stop (layout : Layout text record) :
    layout.closing.stop = layout.closing.position + 1 := by
  rw [stop, layout.isClosing.2]
  rfl

/-- The literals of a layout are values of fields. -/
theorem mem_fields_of_literal (layout : Layout text record) (h : token ∈ layout.tokens)
    {delimiter : Delimiter} (hkind : token.kind = delimiter.tokenKind) : token ∈ layout.fields := by
  simp only [tokens, List.mem_cons, List.mem_append, List.not_mem_nil, or_false] at h
  obtain ⟨hidentifier, hmark⟩ := delimiter.tokenKind_ne
  rcases h with rfl | rfl | h | rfl
  · exact absurd (hkind.symm.trans layout.isKind.1) hidentifier
  · exact absurd (hkind.symm.trans layout.isOpening.1) hmark
  · exact h
  · exact absurd (hkind.symm.trans layout.isClosing.1) hmark

/-- The tokens after a cut, if there are any, end with the closing brace. -/
theorem closing_mem (layout : Layout text record) {first more : List Token}
    (htokens : layout.tokens = first ++ more) : more = [] ∨ layout.closing ∈ more := by
  rcases List.eq_nil_or_concat more with rfl | ⟨init, last, rfl⟩
  · exact .inl rfl
  · rw [List.concat_eq_append] at htokens ⊢
    have hlast : layout.kind :: layout.opening :: layout.fields ++ [layout.closing] =
        (first ++ init) ++ [last] := by
      rw [List.append_assoc, ← htokens]
      rfl
    obtain ⟨-, hclosing⟩ := List.append_inj' hlast rfl
    obtain rfl := List.singleton_inj.mp hclosing
    exact .inr (by simp)

/-- A beginning with the closing brace is the same record. -/
theorem ofLiteral_cutAt_closed (layout : Layout text record) (hn : n ≤ text.length)
    (h : layout.closing.position < n) : ofLiteral (cutAt text n) = .ok (some record) := by
  obtain ⟨first, more, htokens, hcut⟩ := scan_cutAt layout.scan_eq hn
  have hscan : scan (cutAt text n) = .ok layout.tokens := by
    rcases hcut with hclean | ⟨p, token, rest, rfl, htorn⟩
    · rcases layout.closing_mem htokens with rfl | hclosing
      · rw [hclean.scanned, htokens, List.append_nil]
      · have := hclean.after _ hclosing
        omega
    · have hkind := layout.kinds token (by simp [htokens])
      have hlast : layout.closing = token := by
        rcases layout.closing_mem htokens with hnil | hclosing
        · exact nomatch hnil
        · rcases List.mem_cons.mp hclosing with hlast | hrest
          · exact hlast
          · have := htorn.after _ hrest
            omega
      have hmark : token.kind = .mark := hlast ▸ layout.isClosing.1
      rcases htorn.part hkind with ⟨-, -, -, -, hidentifier⟩ | ⟨delimiter, -, hliteral, -⟩
      · exact nomatch hmark.symm.trans hidentifier
      · exact absurd (hliteral.symm.trans hmark) delimiter.tokenKind_ne.2
  exact ofLiteral_of_scan hscan layout.foldlM_take

/-- A beginning that ends inside a literal has it not terminated. -/
theorem ofLiteral_cutAt_inside (layout : Layout text record) (delimiter : Delimiter)
    (hn : n ≤ text.length) (htoken : token ∈ layout.tokens)
    (hkind : token.kind = delimiter.tokenKind) (h : Inside n token) :
    ofLiteral (cutAt text n) = .error (.unterminated ⟨delimiter, token.position⟩) := by
  obtain ⟨hafter, hbefore⟩ := h
  obtain ⟨first, more, htokens, hcut⟩ := scan_cutAt layout.scan_eq hn
  have hgrammar := layout.kinds token htoken
  rw [htokens] at htoken
  have hscan : scan (cutAt text n) = .error ⟨delimiter, token.position⟩ := by
    rcases hcut with hclean | ⟨p, torn, rest, rfl, htorn⟩
    · rcases List.mem_append.mp htoken with hfirst | hmore
      · have := hclean.before token hfirst
        omega
      · have := hclean.after token hmore
        omega
    · obtain rfl : token = torn := by
        rcases List.mem_append.mp htoken with hfirst | hmore
        · have := htorn.before token hfirst
          omega
        · rcases List.mem_cons.mp hmore with hsame | hrest
          · exact hsame
          · have := htorn.after token hrest
            omega
      rcases htorn.part hgrammar with ⟨-, -, -, -, hidentifier⟩ | ⟨other, hscan, hother, -⟩
      · exact absurd (hkind.symm.trans hidentifier) delimiter.tokenKind_ne.1
      · obtain rfl := Delimiter.tokenKind_injective (hkind.symm.trans hother)
        exact hscan
  simp only [ofLiteral, hscan]

/-- Any other beginning asks for more. -/
theorem ofLiteral_cutAt_open (layout : Layout text record) (hn : n ≤ layout.closing.position)
    (hlength : n ≤ text.length)
    (h : ∀ delimiter : Delimiter, ∀ token ∈ layout.fields, token.kind = delimiter.tokenKind →
      ¬ Inside n token) : ofLiteral (cutAt text n) = .ok none := by
  obtain ⟨first, more, htokens, hcut⟩ := scan_cutAt layout.scan_eq hlength
  have hfold := layout.foldlM_take
  rw [htokens] at hfold
  obtain ⟨progress, hfirst, hmore⟩ := Progress.foldlM_append_eq_ok.mp hfold
  rcases hcut with hclean | ⟨p, token, rest, rfl, htorn⟩
  · cases more with
    | nil =>
        -- The closing brace would end in the beginning.
        have hclosing : layout.closing ∈ first := by
          rw [← List.append_nil first, ← htokens]
          simp [tokens]
        have := hclean.before _ hclosing
        rw [layout.closing_stop] at this
        omega
    | cons next rest =>
        obtain ⟨_, htake, -⟩ := Progress.foldlM_cons_eq_ok.mp hmore
        rw [ofLiteral_of_scan hclean.scanned hfirst, htake.record?_eq_none]
  · have htoken : token ∈ layout.tokens := by simp [htokens]
    rcases htorn.part (layout.kinds token htoken) with
      ⟨part, hscan, hpart, hlexeme, hidentifier⟩ | ⟨delimiter, -, hkind, hinside⟩
    · obtain ⟨_, htake, -⟩ := Progress.foldlM_cons_eq_ok.mp hmore
      obtain ⟨reached, htakePart, hopen⟩ :=
        htake.exists_of_alike (.names hidentifier hpart) (layout.tiled.lexeme_of_mem htoken) hlexeme
      have hreached : (first ++ [part]).foldlM Progress.take .start = .ok reached :=
        Progress.foldlM_append_eq_ok.mpr
          ⟨progress, hfirst, Progress.foldlM_cons_eq_ok.mpr ⟨reached, htakePart, rfl⟩⟩
      rw [ofLiteral_of_scan hscan hreached, hopen]
    · exact absurd hinside (h delimiter token (layout.mem_fields_of_literal htoken hkind) hkind)

/-- The values of a layout are the literals among its fields. -/
def IsValue (layout : Layout text record) (literal : Token) : Prop :=
  literal ∈ layout.fields ∧ (literal.kind = .quoted ∨ literal.kind = .raw)

theorem isValue_of_literal (layout : Layout text record) (h : token ∈ layout.fields)
    {delimiter : Delimiter} (hkind : token.kind = delimiter.tokenKind) : layout.IsValue token := by
  have hgrammar := layout.areFields.kinds token h
  cases delimiter with
  | double => exact ⟨h, .inl hkind⟩
  | back => exact ⟨h, .inr hkind⟩
  | single => simp [hkind, Delimiter.tokenKind] at hgrammar

end Layout

/-- A reading objects to a literal that is not closed. -/
def Unclosed (name : Text) (literal : Token) (reading : Except RecordFault (Option Record)) :
    Prop :=
  ∃ fault, reading = .error fault ∧ (Fault.malformed fault).className = "PlaybookSyntaxError" ∧
    fault.message = name ++ " not terminated at column " ++ toString (literal.position + 1)

/-- What the first `n` characters of a text are read as, if the text is read to a record. -/
structure Layout.AnswersCut {text : Text} {record : Record} (layout : Layout text record)
    (n : Nat) : Prop where
  /-- With the closing brace, they are the same record. -/
  closed : layout.closing.position < n → ofLiteral (cutAt text n) = .ok (some record)
  /-- If they end inside a double-quoted value, it is not terminated. -/
  quoted : ∀ literal, layout.IsValue literal → Inside n literal → literal.kind = .quoted →
    Unclosed "string literal" literal (ofLiteral (cutAt text n))
  /-- If they end inside a raw value, it is not terminated. -/
  raw : ∀ literal, layout.IsValue literal → Inside n literal → literal.kind = .raw →
    Unclosed "raw string literal" literal (ofLiteral (cutAt text n))
  /-- In every other case more is asked for. -/
  unfinished : n ≤ layout.closing.position →
    (∀ literal, layout.IsValue literal → ¬ Inside n literal) → ofLiteral (cutAt text n) = .ok none

/-- Where a text that is read is cut decides what its beginning is read as. -/
theorem ofLiteral_cutAt {text : Text} {record : Record}
    (h : ofLiteral text = .ok (some record)) :
    Nonempty (Layout text record) ∧
      ∀ (layout : Layout text record) (n : Nat), n ≤ text.length → layout.AnswersCut n := by
  refine ⟨layout_of_ofLiteral h, ?_⟩
  intro layout n hn
  have hmem {literal : Token} (hvalue : layout.IsValue literal) : literal ∈ layout.tokens := by
    simp [Layout.tokens, hvalue.1]
  constructor
  case closed =>
    intro hclosing
    exact layout.ofLiteral_cutAt_closed hn hclosing
  case quoted =>
    intro literal hvalue hinside hkind
    have hread := layout.ofLiteral_cutAt_inside .double hn (hmem hvalue) hkind hinside
    exact ⟨_, hread, rfl, rfl⟩
  case raw =>
    intro literal hvalue hinside hkind
    have hread := layout.ofLiteral_cutAt_inside .back hn (hmem hvalue) hkind hinside
    exact ⟨_, hread, rfl, rfl⟩
  case unfinished =>
    intro hclosing hvalues
    apply layout.ofLiteral_cutAt_open hclosing hn
    intro delimiter token htoken hkind
    apply hvalues token
    cases delimiter with
    | double => exact ⟨htoken, .inl hkind⟩
    | back => exact ⟨htoken, .inr hkind⟩
    | single =>
        have hgrammar := layout.areFields.kinds token htoken
        simp [hkind, Delimiter.tokenKind] at hgrammar

/-- A cut inside the second of two values. -/
theorem ofLiteral_cutAt_second_value :
    ofLiteral "a\x7bb:\"\x7d\",c:\x60\n\x60\x7d" = .ok (some ⟨"a", [("b", "\x7d"), ("c", "\n")]⟩) ∧
      ∃ layout : Layout "a\x7bb:\"\x7d\",c:\x60\n\x60\x7d" ⟨"a", [("b", "\x7d"), ("c", "\n")]⟩,
        11 ≤ ("a\x7bb:\"\x7d\",c:\x60\n\x60\x7d" : Text).length ∧ layout.AnswersCut 11 := by
  have hread : ofLiteral "a\x7bb:\"\x7d\",c:\x60\n\x60\x7d" =
      .ok (some ⟨"a", [("b", "\x7d"), ("c", "\n")]⟩) := by decide
  obtain ⟨⟨layout⟩, hcuts⟩ := ofLiteral_cutAt hread
  exact ⟨hread, layout, by decide, hcuts layout 11 (by decide)⟩

end Record

end Playbook
