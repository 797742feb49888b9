import Playbook.Fault
import Playbook.Proofs.LexemeScan

/-! # The grammar of composite literals

A layout of a text says how it writes a record: which tokens make it up, and what part of the record
each of them stands for. The reader finds a record in a text exactly when the text has a layout for
it.

## Implementation notes

The grammar is about tokens; `Tiled` puts the white space between them. The reader is followed one
token at a time: `Takes` says once which tokens it may take in each of its states. -/

namespace Playbook

namespace Token

/-- A token is a given mark of the grammar. -/
def IsMark (token : Token) (mark : Text) : Prop := token.kind = .mark ∧ token.text = mark

/-- A token whose text is a mark is that mark. -/
theorem isMark_of_text {token : Token} {mark : Text}
    (h : Lexeme token.kind token.text.toList) (hmark : ∃ c, isMark c = true ∧ mark.toList = [c])
    (ht : token.text = mark) : token.IsMark mark := by
  obtain ⟨c, hc, hlist⟩ := hmark
  rw [ht, hlist] at h
  exact ⟨h.eq_mark hc, ht⟩

/-- No token of another class has a mark as its text. -/
theorem text_ne_of_kind {token : Token} {mark : Text} (h : Lexeme token.kind token.text.toList)
    (hmark : ∃ c, isMark c = true ∧ mark.toList = [c]) (hkind : token.kind ≠ .mark) :
    token.text ≠ mark :=
  fun ht => hkind (isMark_of_text h hmark ht).1

theorem isMark_opening : ∃ c, isMark c = true ∧ ("\x7b" : Text).toList = [c] := ⟨'\x7b', by decide⟩

theorem isMark_closing : ∃ c, isMark c = true ∧ ("\x7d" : Text).toList = [c] := ⟨'\x7d', by decide⟩

theorem isMark_colon : ∃ c, isMark c = true ∧ (":" : Text).toList = [c] := ⟨':', by decide⟩

theorem isMark_comma : ∃ c, isMark c = true ∧ ("," : Text).toList = [c] := ⟨',', by decide⟩

end Token

namespace Record

open Token

/-- A name, a colon and a text literal write a field. -/
structure WritesField (name colon literal : Token) (field : Text × Text) : Prop where
  isName : name.kind = .identifier ∧ name.text = field.1
  isColon : colon.IsMark ":"
  isLiteral : literal.kind = .quoted ∨ literal.kind = .raw
  denotes : TextLiteral.decode literal.text = .ok field.2

/-- The fields of a record, separated by commas. One more comma may follow the last field. -/
inductive WritesFields : List Token → List (Text × Text) → Prop
  | none : WritesFields [] []
  | last {name colon literal field} (hfield : WritesField name colon literal field) :
      WritesFields [name, colon, literal] [field]
  | more {name colon literal comma field tokens fields}
      (hfield : WritesField name colon literal field) (hcomma : comma.IsMark ",")
      (hmore : WritesFields tokens fields) :
      WritesFields (name :: colon :: literal :: comma :: tokens) (field :: fields)

/-- How a text writes a record: it is made up of a kind and, between braces, fields. -/
structure Layout (text : Text) (record : Record) where
  kind : Token
  opening : Token
  fields : List Token
  closing : Token
  tiled : Tiled 0 (kind :: opening :: (fields ++ [closing])) text.toList
  isKind : kind.kind = .identifier ∧ kind.text = record.kind
  isOpening : opening.IsMark "\x7b"
  areFields : WritesFields fields record.fields
  isClosing : closing.IsMark "\x7d"

/-- The tokens of a layout. -/
def Layout.tokens {text : Text} {record : Record} (layout : Layout text record) : List Token :=
  layout.kind :: layout.opening :: (layout.fields ++ [layout.closing])

namespace Progress

/-- What the reader does with a token, state by state. -/
inductive Takes : Progress → Token → Progress → Prop
  | kind {token : Token} (hkind : token.kind = .identifier) :
      Takes .start token (.named token.text)
  | opening {kind : Text} {token : Token} (htext : token.text = "\x7b") :
      Takes (.named kind) token (.listing kind [])
  | noField {kind : Text} {fields : List (Text × Text)} {token : Token}
      (htext : token.text = "\x7d") : Takes (.listing kind fields) token (.closed ⟨kind, fields⟩)
  | key {kind : Text} {fields : List (Text × Text)} {token : Token}
      (htext : token.text ≠ "\x7d") (hkind : token.kind ≠ .mark) :
      Takes (.listing kind fields) token (.keyed kind fields token)
  | colon {kind : Text} {fields : List (Text × Text)} {key token : Token}
      (htext : token.text = ":") (hkey : key.kind = .identifier) :
      Takes (.keyed kind fields key) token (.awaiting kind fields key.text)
  | value {kind : Text} {fields : List (Text × Text)} {name : Text} {token : Token}
      {value : Text} (hkind : token.kind = .quoted ∨ token.kind = .raw)
      (hvalue : TextLiteral.decode token.text = .ok value) :
      Takes (.awaiting kind fields name) token (.valued kind (fields ++ [(name, value)]) name)
  | closing {kind : Text} {fields : List (Text × Text)} {name : Text} {token : Token}
      (htext : token.text = "\x7d") :
      Takes (.valued kind fields name) token (.closed ⟨kind, fields⟩)
  | comma {kind : Text} {fields : List (Text × Text)} {name : Text} {token : Token}
      (htext : token.text = ",") : Takes (.valued kind fields name) token (.listing kind fields)

variable {kind name : Text} {fields : List (Text × Text)} {token key : Token}
  {next : Progress} {record : Record} {tokens : List Token}

theorem Takes.take_eq {progress : Progress} (h : Takes progress token next) :
    progress.take token = .ok next := by
  cases h with
  | kind hkind => simp [take, hkind]
  | opening htext | noField htext | closing htext | comma htext => simp [take, htext]
  | key htext hkind => simp [take, htext, hkind]
  | colon htext hkey => simp [take, htext, hkey]
  | value hkind hvalue => simp [take, takeValue, hkind, hvalue]

theorem takes_of_take {progress : Progress} (h : progress.take token = .ok next) :
    Takes progress token next := by
  cases progress with
  | start =>
      simp only [take] at h
      split at h
      · rename_i hkind
        obtain rfl := Except.ok.inj h
        exact .kind hkind
      · exact nomatch h
  | named kind =>
      simp only [take] at h
      split at h
      · rename_i htext
        obtain rfl := Except.ok.inj h
        exact .opening htext
      · exact nomatch h
  | listing kind fields =>
      simp only [take] at h
      split at h
      · rename_i htext
        obtain rfl := Except.ok.inj h
        exact .noField htext
      · rename_i htext
        split at h
        · exact nomatch h
        · rename_i hkind
          obtain rfl := Except.ok.inj h
          exact .key htext hkind
  | keyed kind fields key =>
      simp only [take] at h
      split at h
      · exact nomatch h
      · rename_i htext
        split at h
        · exact nomatch h
        · rename_i hkey
          obtain rfl := Except.ok.inj h
          exact .colon (Decidable.not_not.mp htext) (Decidable.not_not.mp hkey)
  | awaiting kind fields name =>
      simp only [take, takeValue, Bool.or_eq_true, decide_eq_true_eq] at h
      split at h
      · rename_i hkind
        split at h
        · rename_i value hvalue
          obtain rfl := Except.ok.inj h
          exact .value hkind hvalue
        · exact nomatch h
      · exact nomatch h
  | valued kind fields name =>
      simp only [take] at h
      split at h
      · rename_i htext
        obtain rfl := Except.ok.inj h
        exact .closing htext
      · split at h
        · rename_i htext
          obtain rfl := Except.ok.inj h
          exact .comma htext
        · exact nomatch h
  | closed record => exact nomatch h

theorem foldlM_cons_eq_ok {progress last : Progress} :
    (token :: tokens).foldlM take progress = .ok last ↔
      ∃ next, Takes progress token next ∧ tokens.foldlM take next = .ok last := by
  rw [List.foldlM_cons, bind_eq_ok]
  exact exists_congr fun next => and_congr_left fun _ => ⟨takes_of_take, Takes.take_eq⟩

theorem foldlM_append_eq_ok {progress last : Progress} {more : List Token} :
    (tokens ++ more).foldlM take progress = .ok last ↔
      ∃ next, tokens.foldlM take progress = .ok next ∧ more.foldlM take next = .ok last := by
  rw [List.foldlM_append, bind_eq_ok]

/-- Nothing may follow the closing brace. -/
theorem foldlM_closed {last : Progress} (h : tokens.foldlM take (closed record) = .ok last) :
    tokens = [] ∧ last = closed record := by
  cases tokens with
  | nil => exact ⟨rfl, (Except.ok.inj h).symm⟩
  | cons token tokens =>
      obtain ⟨next, htake, -⟩ := foldlM_cons_eq_ok.mp h
      exact nomatch htake

/-- What stands for a field name leads to a record only through a colon, a text literal and the mark
after them. -/
theorem writesField_of_foldlM (hlexeme : ∀ token ∈ tokens, Lexeme token.kind token.text.toList)
    (h : tokens.foldlM take (keyed kind fields key) = .ok (closed record)) :
    ∃ colon literal mark rest value, tokens = colon :: literal :: mark :: rest ∧
      WritesField key colon literal (key.text, value) ∧
      (mark.IsMark "\x7d" ∧ rest = [] ∧ record = ⟨kind, fields ++ [(key.text, value)]⟩ ∨
        mark.IsMark "," ∧
          rest.foldlM take (listing kind (fields ++ [(key.text, value)])) =
            .ok (closed record)) := by
  match tokens, h with
  | colon :: tokens, h =>
    obtain ⟨_, htake, h⟩ := foldlM_cons_eq_ok.mp h
    cases htake with
    | colon hcolon hname =>
    match tokens, h with
    | literal :: tokens, h =>
      obtain ⟨_, htake, h⟩ := foldlM_cons_eq_ok.mp h
      cases htake with
      | @value _ _ _ _ value hliteral hvalue =>
      match tokens, h with
      | mark :: rest, h =>
        obtain ⟨_, htake, h⟩ := foldlM_cons_eq_ok.mp h
        have hfield : WritesField key colon literal (key.text, value) :=
          ⟨⟨hname, rfl⟩, isMark_of_text (hlexeme colon (by simp)) isMark_colon hcolon, hliteral,
            hvalue⟩
        have hmark := hlexeme mark (by simp)
        refine ⟨colon, literal, mark, rest, value, rfl, hfield, ?_⟩
        cases htake with
        | closing htext =>
            obtain ⟨rfl, hrecord⟩ := foldlM_closed h
            exact .inl ⟨isMark_of_text hmark isMark_closing htext, rfl, closed.inj hrecord⟩
        | comma htext => exact .inr ⟨isMark_of_text hmark isMark_comma htext, h⟩

/-- From where a field name is due, only fields and a closing brace lead to a record. -/
theorem writesFields_of_foldlM (hlexeme : ∀ token ∈ tokens, Lexeme token.kind token.text.toList)
    (h : tokens.foldlM take (listing kind fields) = .ok (closed record)) :
    ∃ inner closing more, tokens = inner ++ [closing] ∧ WritesFields inner more ∧
      closing.IsMark "\x7d" ∧ record = ⟨kind, fields ++ more⟩ := by
  -- A field takes four tokens with its comma, so the induction is on the number of tokens.
  induction hn : tokens.length using Nat.strongRecOn generalizing tokens fields with
  | ind n ih =>
      match tokens, h with
      | first :: tokens, h =>
        obtain ⟨_, htake, h⟩ := foldlM_cons_eq_ok.mp h
        cases htake with
        | noField htext =>
            obtain ⟨rfl, hrecord⟩ := foldlM_closed h
            have hclosing := isMark_of_text (hlexeme first (by simp)) isMark_closing htext
            rw [← List.append_nil fields] at hrecord
            exact ⟨[], first, [], rfl, .none, hclosing, closed.inj hrecord⟩
        | key =>
            obtain ⟨colon, literal, mark, rest, value, rfl, hfield, hmark⟩ :=
              writesField_of_foldlM (fun token htoken => hlexeme token (by simp [htoken])) h
            rcases hmark with ⟨hclosing, rfl, hrecord⟩ | ⟨hcomma, hrest⟩
            · exact ⟨_, mark, _, rfl, .last hfield, hclosing, hrecord⟩
            · have hshorter : rest.length < n := by
                simp only [← hn, List.length_cons]
                omega
              obtain ⟨inner, closing, more, rfl, hinner, hclosing, hrecord⟩ :=
                ih rest.length hshorter (fun token htoken => hlexeme token (by simp [htoken]))
                  hrest rfl
              refine ⟨_, closing, _, rfl, .more hfield hcomma hinner, hclosing, ?_⟩
              rw [hrecord, List.append_assoc, List.singleton_append]

/-- A field is read to its value. -/
theorem foldlM_of_writesField {colon literal : Token} {field : Text × Text}
    (hfield : WritesField key colon literal field) (hkey : Lexeme key.kind key.text.toList)
    (rest : List Token) :
    (key :: colon :: literal :: rest).foldlM take (listing kind fields) =
      rest.foldlM take (valued kind (fields ++ [field]) field.1) := by
  obtain ⟨⟨hname, hkeyed⟩, hcolon, hliteral, hvalue⟩ := hfield
  have hmark : key.kind ≠ .mark := by
    rw [hname]
    decide
  have hlisting : Takes (listing kind fields) key (keyed kind fields key) :=
    .key (text_ne_of_kind hkey isMark_closing hmark) hmark
  have hkeyed' : Takes (keyed kind fields key) colon (awaiting kind fields key.text) :=
    .colon hcolon.2 hname
  have hawaiting : Takes (awaiting kind fields key.text) literal
      (valued kind (fields ++ [field]) field.1) := by
    rw [hkeyed]
    exact .value hliteral hvalue
  rw [List.foldlM_cons, hlisting.take_eq, ok_bind, List.foldlM_cons, hkeyed'.take_eq, ok_bind,
    List.foldlM_cons, hawaiting.take_eq, ok_bind]

/-- Fields and a closing brace lead from where a field name is due to a record. -/
theorem foldlM_of_writesFields {inner : List Token} {more : List (Text × Text)}
    {closing : Token} (hinner : WritesFields inner more) (hclosing : closing.IsMark "\x7d")
    (hlexeme : ∀ token ∈ inner, Lexeme token.kind token.text.toList) :
    (inner ++ [closing]).foldlM take (listing kind fields) =
      .ok (closed ⟨kind, fields ++ more⟩) := by
  induction hinner generalizing fields with
  | none =>
      rw [List.append_nil]
      exact foldlM_cons_eq_ok.mpr ⟨_, .noField hclosing.2, rfl⟩
  | last hfield =>
      refine (foldlM_of_writesField hfield (hlexeme _ (by simp)) [closing]).trans ?_
      exact foldlM_cons_eq_ok.mpr ⟨_, .closing hclosing.2, rfl⟩
  | @more name colon literal comma field tokens fields' hfield hcomma _ ih =>
      refine (foldlM_of_writesField hfield (hlexeme _ (by simp))
        (comma :: (tokens ++ [closing]))).trans ?_
      refine foldlM_cons_eq_ok.mpr ⟨_, .comma hcomma.2, ?_⟩
      rw [ih fun token htoken => hlexeme token (by simp [htoken]), List.append_assoc,
        List.singleton_append]

end Progress

/-- Fields consist of names, literals and marks. -/
theorem WritesFields.kinds {tokens : List Token} {fields : List (Text × Text)}
    (h : WritesFields tokens fields) :
    ∀ token ∈ tokens, token.kind ∈ [TokenKind.identifier, .quoted, .raw, .mark] := by
  have hthree {name colon literal : Token} {field : Text × Text}
      (hfield : WritesField name colon literal field) :
      ∀ token ∈ [name, colon, literal],
        token.kind ∈ [TokenKind.identifier, .quoted, .raw, .mark] := by
    obtain ⟨⟨hname, -⟩, ⟨hcolon, -⟩, hliteral, -⟩ := hfield
    rcases hliteral with hliteral | hliteral <;> simp [hname, hcolon, hliteral]
  induction h with
  | none => simp
  | last hfield => exact hthree hfield
  | @more name colon literal comma field tokens fields hfield hcomma _ ih =>
      intro token htoken
      rw [show name :: colon :: literal :: comma :: tokens =
        [name, colon, literal] ++ comma :: tokens from rfl] at htoken
      rcases List.mem_append.mp htoken with htoken | htoken
      · exact hthree hfield token htoken
      · rcases List.mem_cons.mp htoken with rfl | htoken
        · simp [hcomma.1]
        · exact ih token htoken

/-- Between braces a name is followed by a colon. -/
theorem WritesFields.isChain {tokens : List Token} {fields : List (Text × Text)}
    (h : WritesFields tokens fields) (closing : Token) :
    (tokens ++ [closing]).IsChain NameThenMark := by
  have hthree {name colon literal : Token} {field : Text × Text} {tokens : List Token}
      (hfield : WritesField name colon literal field) (htokens : tokens.IsChain NameThenMark) :
      (name :: colon :: literal :: tokens).IsChain NameThenMark := by
    have hcolon : colon.kind ≠ .identifier := by simp [hfield.isColon.1]
    have hliteral : literal.kind ≠ .identifier := by
      rcases hfield.isLiteral with hkind | hkind <;> simp [hkind]
    exact .cons_cons (fun _ => hfield.isColon.1)
      (isChain_cons hcolon (isChain_cons hliteral htokens))
  induction h with
  | none => exact .singleton _
  | last hfield => exact hthree hfield (.singleton _)
  | more hfield hcomma _ ih => exact hthree hfield (isChain_cons (by simp [hcomma.1]) ih)

namespace Layout

variable {text : Text} {record : Record}

/-- A layout consists of names, literals and marks. -/
theorem kinds (layout : Layout text record) :
    ∀ token ∈ layout.tokens, token.kind ∈ [TokenKind.identifier, .quoted, .raw, .mark] := by
  intro token htoken
  simp only [tokens, List.mem_cons, List.mem_append, List.not_mem_nil, or_false] at htoken
  rcases htoken with rfl | rfl | htoken | rfl
  · simp [layout.isKind.1]
  · simp [layout.isOpening.1]
  · exact layout.areFields.kinds token htoken
  · simp [layout.isClosing.1]

/-- The tokens of a layout are those that the scanner finds. -/
theorem scan_eq (layout : Layout text record) : scan text = .ok layout.tokens := by
  apply scanFrom_of_tiled layout.tiled
  · intro token htoken
    have hkind := layout.kinds token htoken
    constructor
    · intro hnumber
      simp [hnumber] at hkind
    · intro hstray
      simp [hstray] at hkind
  · have hopening : layout.opening.kind ≠ .identifier := by simp [layout.isOpening.1]
    exact .cons_cons (fun _ => layout.isOpening.1)
      (isChain_cons hopening (layout.areFields.isChain layout.closing))

/-- The tokens of a layout are read to its record. -/
theorem foldlM_take (layout : Layout text record) :
    layout.tokens.foldlM Progress.take .start = .ok (.closed record) := by
  have hlexeme : ∀ token ∈ layout.fields, Lexeme token.kind token.text.toList :=
    fun token htoken => layout.tiled.lexeme_of_mem (by simp [htoken])
  refine Progress.foldlM_cons_eq_ok.mpr ⟨_, .kind layout.isKind.1, ?_⟩
  refine Progress.foldlM_cons_eq_ok.mpr ⟨_, .opening layout.isOpening.2, ?_⟩
  rw [Progress.foldlM_of_writesFields layout.areFields layout.isClosing hlexeme, layout.isKind.2,
    List.nil_append]

end Layout

theorem ofLiteral_of_scan {text : Text} {tokens : List Token} {progress : Progress}
    (hscan : scan text = .ok tokens) (hfold : tokens.foldlM Progress.take .start = .ok progress) :
    ofLiteral text = .ok progress.record? := by
  simp only [ofLiteral, hscan, hfold, map_ok]

/-- What has a layout is read. -/
theorem Layout.ofLiteral_eq {text : Text} {record : Record} (layout : Layout text record) :
    ofLiteral text = .ok (some record) :=
  ofLiteral_of_scan layout.scan_eq layout.foldlM_take

theorem ofLiteral_eq_ok {text : Text} {found : Option Record} (h : ofLiteral text = .ok found) :
    ∃ tokens progress, scan text = .ok tokens ∧
      tokens.foldlM Progress.take .start = .ok progress ∧ progress.record? = found := by
  rw [ofLiteral] at h
  cases hscan : scan text with
  | error fault => rw [hscan] at h; exact nomatch h
  | ok tokens =>
      rw [hscan] at h
      obtain ⟨progress, hfold, hfound⟩ := map_eq_ok.mp h
      exact ⟨tokens, progress, rfl, hfold, hfound⟩

theorem Progress.eq_closed {progress : Progress} {record : Record}
    (h : progress.record? = some record) : progress = closed record := by
  cases progress with
  | closed found => rw [record?, Option.some.injEq] at h; rw [h]
  | start | named | listing | keyed | awaiting | valued => simp [record?] at h

/-- What is read has a layout. -/
theorem layout_of_ofLiteral {text : Text} {record : Record}
    (h : ofLiteral text = .ok (some record)) : Nonempty (Layout text record) := by
  obtain ⟨tokens, progress, hscan, hfold, hfound⟩ := ofLiteral_eq_ok h
  obtain rfl := Progress.eq_closed hfound
  have htiled := scan_tiled hscan
  match tokens, hfold with
  | kind :: tokens, hfold =>
    obtain ⟨_, htake, hfold⟩ := Progress.foldlM_cons_eq_ok.mp hfold
    cases htake with
    | kind hkind =>
    match tokens, hfold with
    | opening :: tokens, hfold =>
      obtain ⟨_, htake, hfold⟩ := Progress.foldlM_cons_eq_ok.mp hfold
      cases htake with
      | opening hopening =>
      obtain ⟨inner, closing, more, rfl, hinner, hclosing, rfl⟩ :=
        Progress.writesFields_of_foldlM
          (fun token htoken => htiled.lexeme_of_mem (by simp [htoken])) hfold
      have hmark := isMark_of_text (htiled.lexeme_of_mem (by simp)) isMark_opening hopening
      exact ⟨kind, opening, inner, closing, htiled, ⟨hkind, rfl⟩, hmark, hinner, hclosing⟩

/-- A text is refused for a literal that is not closed or for its tokens. -/
theorem ofLiteral_eq_error {text : Text} {fault : RecordFault} (h : ofLiteral text = .error fault) :
    (∃ literal, fault = .unterminated literal) ∨
      ∃ tokens, scan text = .ok tokens ∧ tokens.foldlM Progress.take .start = .error fault := by
  rw [ofLiteral] at h
  cases hscan : scan text with
  | error literal =>
      rw [hscan] at h
      exact .inl ⟨literal, (Except.error.inj h).symm⟩
  | ok tokens =>
      simp only [hscan] at h
      cases hfold : tokens.foldlM Progress.take .start with
      | error later =>
          rw [hfold, map_error] at h
          exact .inr ⟨tokens, rfl, Except.error.inj h ▸ hfold⟩
      | ok progress =>
          rw [hfold, map_ok] at h
          cases h

end Record

end Playbook
