import Playbook.Proofs.Escapes
import Playbook.Proofs.LiteralGrammar

/-! # Why a text is refused

A text that writes no record asks for more or is refused, and it is refused for its form with one
exception: where the reader comes to a value that holds a surrogate, the fault is one of encoding. It
comes to such a value when all before it begins to write a record, whatever stands behind it.

## Implementation notes

A fault of encoding can only come from the token for which a value is due. The tokens before it are
those that lead the reader there, so they are followed from field to field as for a whole record. -/

namespace Playbook.Record

open Token TextLiteral

/-- Fields of a record, each with a comma behind it. -/
inductive WritesEntries : List Token → Prop
  | none : WritesEntries []
  | more {name colon literal comma field tokens} (hfield : WritesField name colon literal field)
      (hcomma : comma.IsMark ",") (hmore : WritesEntries tokens) :
      WritesEntries (name :: colon :: literal :: comma :: tokens)

/-- How a text comes to a value that cannot be encoded: it begins to write a record, and the value that
is due is a double-quoted literal with a surrogate behind complete pieces. -/
structure Unencodable (text : Text) where
  kind : Token
  opening : Token
  fields : List Token
  name : Token
  colon : Token
  literal : Token
  rest : List Token
  body : List CodePoint
  scanned : scan text = .ok (kind :: opening :: (fields ++ name :: colon :: literal :: rest))
  isKind : kind.kind = .identifier
  isOpening : opening.IsMark "\x7b"
  areFields : WritesEntries fields
  isName : name.kind = .identifier
  isColon : colon.IsMark ":"
  isLiteral : literal.kind = .quoted ∧ literal.text = enclosed body
  comesToSurrogate : ComesToSurrogate body

/-- The class of a fault tells whether the form of a text is at fault. -/
theorem className_eq_iff {fault : RecordFault} :
    (Fault.malformed fault).className = "PlaybookSyntaxError" ↔ fault.isSyntax = true := by
  cases hsyntax : fault.isSyntax <;> simp [Fault.className, hsyntax]

namespace Progress

variable {tokens : List Token} {fault : RecordFault}

/-- Tokens are refused for the first one that cannot be taken. -/
theorem exists_of_foldlM_eq_error {progress : Progress}
    (h : tokens.foldlM take progress = .error fault) :
    ∃ front token back next, tokens = front ++ token :: back ∧
      front.foldlM take progress = .ok next ∧ next.take token = .error fault := by
  induction tokens generalizing progress with
  | nil => cases h
  | cons token tokens ih =>
      rw [List.foldlM_cons] at h
      cases htake : progress.take token with
      | error later =>
          rw [htake] at h
          exact ⟨[], token, tokens, progress, rfl, rfl, htake.trans h⟩
      | ok next =>
          rw [htake, ok_bind] at h
          obtain ⟨front, refused, back, last, rfl, hfront, hrefused⟩ := ih h
          refine ⟨token :: front, refused, back, last, rfl, ?_, hrefused⟩
          exact foldlM_cons_eq_ok.mpr ⟨next, takes_of_take htake, hfront⟩

/-- A token is refused for its form unless it stands for a value. -/
theorem awaiting_of_take_eq_error {progress : Progress} {token : Token}
    (h : progress.take token = .error fault) (hfault : fault.isSyntax = false) :
    ∃ kind fields name later, progress = awaiting kind fields name ∧
      (token.kind = .quoted ∨ token.kind = .raw) ∧ decode token.text = .error later ∧
      later.isSyntax = false := by
  cases progress with
  | awaiting kind fields name =>
      simp only [take, takeValue, Bool.or_eq_true, decide_eq_true_eq] at h
      split at h
      · rename_i hkind
        split at h
        · cases h
        · rename_i later hdecode
          obtain rfl := Except.error.inj h
          exact ⟨kind, fields, name, later, rfl, hkind, hdecode, hfault⟩
      · obtain rfl := Except.error.inj h
        cases hfault
  | start | named | listing | keyed | valued | closed =>
      simp only [take] at h
      repeat' split at h
      all_goals
        cases h
        try cases hfault

/-- From where a field name is due, only fields with commas, a name and a colon lead to where a value is
due. -/
theorem writesEntries_of_foldlM {kind last name : Text} {fields more : List (Text × Text)}
    (hlexeme : ∀ token ∈ tokens, Lexeme token.kind token.text.toList)
    (h : tokens.foldlM take (listing kind fields) = .ok (awaiting last more name)) :
    ∃ entries key colon, tokens = entries ++ [key, colon] ∧ WritesEntries entries ∧
      key.kind = .identifier ∧ colon.IsMark ":" := by
  -- A field takes four tokens with its comma, so the induction is on the number of tokens.
  induction hn : tokens.length using Nat.strongRecOn generalizing tokens fields with
  | ind n ih =>
      have hclosed {record : Record} {rest : List Token}
          (h : rest.foldlM take (closed record) = .ok (awaiting last more name)) : False := by
        cases (foldlM_closed h).2
      match tokens, h with
      | key :: tokens, h =>
        obtain ⟨_, htake, h⟩ := foldlM_cons_eq_ok.mp h
        cases htake with
        | noField => exact (hclosed h).elim
        | key =>
        match tokens, h with
        | colon :: tokens, h =>
          obtain ⟨_, htake, h⟩ := foldlM_cons_eq_ok.mp h
          cases htake with
          | colon hcolon hname =>
          have hmark := isMark_of_text (hlexeme colon (by simp)) isMark_colon hcolon
          match tokens, h with
          | [], _ => exact ⟨[], key, colon, rfl, .none, hname, hmark⟩
          | literal :: tokens, h =>
            obtain ⟨_, htake, h⟩ := foldlM_cons_eq_ok.mp h
            cases htake with
            | @value _ _ _ _ value hliteral hvalue =>
            match tokens, h with
            | comma :: tokens, h =>
              obtain ⟨_, htake, h⟩ := foldlM_cons_eq_ok.mp h
              cases htake with
              | closing => exact (hclosed h).elim
              | comma htext =>
                  have hshorter : tokens.length < n := by
                    simp only [← hn, List.length_cons]
                    omega
                  obtain ⟨entries, next, mark, rfl, hentries, hnext⟩ :=
                    ih tokens.length hshorter (fun token htoken => hlexeme token (by simp [htoken]))
                      h rfl
                  have hcomma := isMark_of_text (hlexeme comma (by simp)) isMark_comma htext
                  have hfield : WritesField key colon literal (key.text, value) :=
                    ⟨⟨hname, rfl⟩, hmark, hliteral, hvalue⟩
                  exact ⟨_, next, mark, rfl, .more hfield hcomma hentries, hnext⟩

/-- Fields with commas lead back to where a field name is due. -/
theorem foldlM_of_writesEntries {entries : List Token} (h : WritesEntries entries)
    (hlexeme : ∀ token ∈ entries, Lexeme token.kind token.text.toList) (kind : Text)
    (fields : List (Text × Text)) :
    ∃ more, ∀ rest, (entries ++ rest).foldlM take (listing kind fields) =
      rest.foldlM take (listing kind more) := by
  induction h generalizing fields with
  | none => exact ⟨fields, fun rest => rfl⟩
  | @more name colon literal comma field tokens hfield hcomma _ ih =>
      obtain ⟨more, hmore⟩ := ih (fun token htoken => hlexeme token (by simp [htoken]))
        (fields ++ [field])
      refine ⟨more, fun rest => ?_⟩
      have hvalued : Takes (valued kind (fields ++ [field]) field.1) comma
          (listing kind (fields ++ [field])) :=
        .comma hcomma.2
      refine (foldlM_of_writesField hfield (hlexeme name (by simp))
        (comma :: (tokens ++ rest))).trans ?_
      rw [List.foldlM_cons, hvalued.take_eq, ok_bind, hmore]

end Progress

section

variable {text : Text}

/-- A literal that is refused for something else than its form stands in double quotes and comes to a
surrogate. -/
theorem exists_comesToSurrogate {token : Token} {fault : TextLiteral.Fault}
    (hlexeme : Lexeme token.kind token.text.toList) (hkind : token.kind = .quoted ∨ token.kind = .raw)
    (h : decode token.text = .error fault) (hfault : fault.isSyntax = false) :
    ∃ body, token.kind = .quoted ∧ token.text = enclosed body ∧ ComesToSurrogate body := by
  rcases hkind with hkind | hkind
  · rw [hkind] at hlexeme
    obtain ⟨body, -, hbody⟩ := hlexeme
    have htext : token.text = enclosed body := Text.toList_inj.mp hbody
    exact ⟨body, hkind, htext, refused_unencoded_iff.mp ⟨fault, htext ▸ h, hfault⟩⟩
  · rw [hkind] at hlexeme
    obtain ⟨body, -, hbody⟩ := hlexeme
    have hraw : inside? '\x60' token.text.toList = some body := by
      rw [hbody]
      exact inside?_enclosed ..
    simp only [decode, value, hraw] at h
    cases h

/-- A fault of encoding is that of a value to which the text comes. -/
theorem unencodable_of_ofLiteral {fault : RecordFault} (h : ofLiteral text = .error fault)
    (hfault : fault.isSyntax = false) : Nonempty (Unencodable text) := by
  rcases ofLiteral_eq_error h with ⟨literal, rfl⟩ | ⟨tokens, hscan, hfold⟩
  · cases hfault
  have hlexeme : ∀ token ∈ tokens, Lexeme token.kind token.text.toList :=
    fun token htoken => (scan_tiled hscan).lexeme_of_mem htoken
  obtain ⟨front, literal, rest, _, rfl, hfront, hrefused⟩ := Progress.exists_of_foldlM_eq_error hfold
  obtain ⟨last, more, name, later, rfl, hliteral, hdecode, hlater⟩ :=
    Progress.awaiting_of_take_eq_error hrefused hfault
  obtain ⟨body, hquoted, htext, hsurrogate⟩ :=
    exists_comesToSurrogate (hlexeme literal (by simp)) hliteral hdecode hlater
  match front, hfront with
  | kind :: front, hfront =>
    obtain ⟨_, htake, hfront⟩ := Progress.foldlM_cons_eq_ok.mp hfront
    cases htake with
    | kind hkind =>
    match front, hfront with
    | opening :: front, hfront =>
      obtain ⟨_, htake, hfront⟩ := Progress.foldlM_cons_eq_ok.mp hfront
      cases htake with
      | opening hopening =>
      have hmark := isMark_of_text (hlexeme opening (by simp)) isMark_opening hopening
      obtain ⟨entries, key, colon, rfl, hentries, hkey, hcolon⟩ :=
        Progress.writesEntries_of_foldlM (fun token htoken => hlexeme token (by simp [htoken])) hfront
      exact ⟨kind, opening, entries, key, colon, literal, rest, body, by simpa using hscan, hkind,
        hmark, hentries, hkey, hcolon, ⟨hquoted, htext⟩, hsurrogate⟩

/-- A text that comes to a value which cannot be encoded is refused for that. -/
theorem Unencodable.ofLiteral_eq (h : Unencodable text) :
    ∃ fault, ofLiteral text = .error fault ∧ fault.isSyntax = false := by
  obtain ⟨kind, opening, fields, name, colon, literal, rest, body, hscan, hkind, hopening, hfields,
    hname, hcolon, ⟨hquoted, htext⟩, hsurrogate⟩ := h
  obtain ⟨fault, hdecode, hfault⟩ := refused_unencoded_iff.mpr hsurrogate
  have hlexeme : ∀ token ∈ kind :: opening :: (fields ++ name :: colon :: literal :: rest),
      Lexeme token.kind token.text.toList :=
    fun token htoken => (scan_tiled hscan).lexeme_of_mem htoken
  obtain ⟨more, hentries⟩ := Progress.foldlM_of_writesEntries hfields
    (fun token htoken => hlexeme token (by simp [htoken])) kind.text []
  have hmark : name.kind ≠ .mark := by simp [hname]
  have hkey : Progress.Takes (.listing kind.text more) name (.keyed kind.text more name) :=
    .key (text_ne_of_kind (hlexeme name (by simp)) isMark_closing hmark) hmark
  have hawaiting : Progress.Takes (.keyed kind.text more name) colon
      (.awaiting kind.text more name.text) :=
    .colon hcolon.2 hname
  have hrefused : Progress.take (.awaiting kind.text more name.text) literal =
      .error (.value fault) := by
    simp [Progress.take, Progress.takeValue, hquoted, htext, hdecode]
  refine ⟨.value fault, ?_, hfault⟩
  rw [ofLiteral, hscan]
  simp only [List.foldlM_cons, (Progress.Takes.kind hkind).take_eq,
    (Progress.Takes.opening hopening.2).take_eq, ok_bind, hentries, hkey.take_eq, hawaiting.take_eq,
    hrefused, error_bind, map_error]

/-- The reader accepts exactly the grammar of composite literals. Where it comes to a value that cannot
be encoded, it is refused for that, and every other text asks for more or is refused for its form. -/
theorem ofLiteral_accepts_grammar (text : Text) :
    (∀ record, ofLiteral text = .ok (some record) ↔ Nonempty (Layout text record)) ∧
      ((∃ fault, ofLiteral text = .error fault ∧
          (Fault.malformed fault).className = "UnicodeEncodeError") ↔ Nonempty (Unencodable text)) ∧
      ((∀ record, IsEmpty (Layout text record)) → IsEmpty (Unencodable text) →
        ofLiteral text = .ok none ∨ ∃ fault, ofLiteral text = .error fault ∧
          (Fault.malformed fault).className = "PlaybookSyntaxError") := by
  have hclass {fault : RecordFault} :
      (Fault.malformed fault).className = "UnicodeEncodeError" ↔ fault.isSyntax = false := by
    cases hsyntax : fault.isSyntax <;> simp [Fault.className, hsyntax]
  refine ⟨fun record => ⟨layout_of_ofLiteral, fun ⟨layout⟩ => layout.ofLiteral_eq⟩, ⟨?_, ?_⟩, ?_⟩
  · rintro ⟨fault, hread, hfault⟩
    exact unencodable_of_ofLiteral hread (hclass.mp hfault)
  · rintro ⟨hvalue⟩
    obtain ⟨fault, hread, hfault⟩ := hvalue.ofLiteral_eq
    exact ⟨fault, hread, hclass.mpr hfault⟩
  · intro hlayout hvalue
    cases hread : ofLiteral text with
    | error fault =>
        cases hsyntax : fault.isSyntax with
        | true => exact .inr ⟨fault, rfl, className_eq_iff.mpr hsyntax⟩
        | false =>
            obtain ⟨value⟩ := unencodable_of_ofLiteral hread hsyntax
            exact (hvalue.false value).elim
    | ok found =>
        cases found with
        | none => exact .inl rfl
        | some record =>
            obtain ⟨layout⟩ := layout_of_ofLiteral hread
            exact ((hlayout record).false layout).elim

/-- A value that is a surrogate is refused, but not for its form. -/
theorem ofLiteral_of_surrogate :
    ∃ fault, ofLiteral ("k\x7ba:\"" ++ Text.singleton (.surrogate 0) ++ "\"\x7d") = .error fault ∧
      (Fault.malformed fault).className = "UnicodeEncodeError" ∧
      fault.message =
        "'utf-8' codec can't encode character '\\ud800' in position 0: surrogates not allowed" :=
  ⟨.value ⟨.unencodable ⟨0, 0, 1⟩, "\"" ++ Text.singleton (.surrogate 0) ++ "\""⟩,
    by decide +kernel, by decide +kernel, by decide +kernel⟩

end

end Playbook.Record
