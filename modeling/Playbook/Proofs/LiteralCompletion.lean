import Playbook.Proofs.LiteralGrammar

/-! # Which unfinished records can be completed

When the reader asks for more, some text always completes the record, except in one situation: what
stands last is no identifier although a field name is due. The reader objects to it only at the
colon, and no text leads past that objection.

## Implementation notes

Each state of the reader has a completion of its own. It begins with a character that no token in
progress can take along, so the tokens before it stay what they are. -/

namespace Playbook

namespace Token

variable {next : Option Pending} {position : Nat} {tokens last : List Token}

/-- A divider leaves the token in progress as it would be at the end of the text. -/
theorem scanFrom_divider {c : CodePoint} (hc : isDivider c = true) (h : settle next = .ok last)
    (cs : List CodePoint) :
    scanFrom next position (c :: cs) = (scanFrom none position (c :: cs)).map (last ++ ·) := by
  cases next with
  | none =>
      obtain rfl := Except.ok.inj h
      exact (map_id' _).symm
  | some p =>
      obtain ⟨token, hfinish, rfl⟩ := map_eq_ok.mp h
      simp only [isDivider, Bool.and_eq_true, Bool.not_eq_true', decide_eq_true_eq] at hc
      obtain ⟨⟨⟨⟨hword, hdigit⟩, hpoint⟩, hplus⟩, hminus⟩ := hc
      have hparts : p.effect c = .parts := by
        obtain ⟨form, chars, start⟩ := p
        cases form with
        | word => simp [Pending.effect, hword]
        | number exponent => simp [Pending.effect, hword, hpoint, hplus, hminus]
        | point => simp [Pending.effect, hdigit]
        | literal delimiter escaped => simp [Pending.finish] at hfinish
      exact scanFrom_of_parts hparts hfinish cs

/-- Reading a text with more behind it goes on from what the text left. -/
theorem scan_append {text more : Text} {first : List Token}
    (h : feedAll none 0 text.toList = .ok (first, next)) :
    scan (text ++ more) = (scanFrom next text.toList.length more.toList).map (first ++ ·) := by
  rw [scan, Text.toList_append, scanFrom_append h, Nat.zero_add]

/-- With more behind a text its tokens stay, but the last one may become another that is taken
alike. -/
theorem scan_append_cases {text more : Text} {all : List Token} (h : scan text = .ok tokens)
    (hall : scan (text ++ more) = .ok all) :
    (∃ rest, all = tokens ++ rest) ∨
      ∃ first key name rest, tokens = first ++ [key] ∧ all = first ++ name :: rest ∧
        Alike key name := by
  obtain ⟨first, next, last, hfeed, hsettle, rfl⟩ := scanFrom_eq_ok h
  rw [scan_append hfeed] at hall
  obtain ⟨others, hothers, rfl⟩ := map_eq_ok.mp hall
  cases next with
  | none =>
      obtain rfl := Except.ok.inj hsettle
      exact .inl ⟨others, by rw [List.append_nil]⟩
  | some p =>
      obtain ⟨key, hfinish, rfl⟩ := map_eq_ok.mp hsettle
      obtain ⟨_, -, -, hready⟩ := feedAll_tiled (ready_none 0) hfeed
      obtain ⟨hp, -⟩ := ready_some.mp hready
      obtain ⟨name, rest, rfl, hname⟩ := scanFrom_some_eq_ok hp hothers
      exact .inr ⟨first, key, name, rest, rfl, rfl, p.alike_of_finish hp hfinish hname⟩

/-- If the last token of a text is neither an identifier nor a mark, then with more behind the text
there still is such a token in its place. -/
theorem exists_of_scan_append {text more : Text} {key : Token} {all : List Token}
    (h : scan text = .ok (tokens ++ [key])) (hkey : key.kind ≠ .identifier)
    (hmark : key.kind ≠ .mark) (hall : scan (text ++ more) = .ok all) :
    ∃ name rest, all = tokens ++ name :: rest ∧ name.kind ≠ .identifier ∧ name.kind ≠ .mark := by
  rcases scan_append_cases h hall with ⟨rest, rfl⟩ | ⟨first, last, name, rest, hlast, rfl, halike⟩
  · exact ⟨key, rest, by rw [List.append_assoc, List.singleton_append], hkey, hmark⟩
  · obtain ⟨rfl, hsame⟩ := List.append_inj' hlast rfl
    obtain rfl := List.singleton_inj.mp hsame
    refine ⟨name, rest, rfl, ?_⟩
    cases halike with
    | names hidentifier => exact absurd hidentifier hkey
    | others _ hname => rcases hname with hname | hname <;> simp [hname]

end Token

namespace Record

open Token

namespace Progress

/-- A text that completes a record that was read so far. -/
def completion : Progress → List CodePoint
  | start => ['a', '\x7b', '\x7d']
  | named _ => ['\x7b', '\x7d']
  | listing .. => [.scalar '\x7d']
  | keyed .. => [':', '"', '"', '\x7d']
  | awaiting .. => ['"', '"', '\x7d']
  | valued .. => [.scalar '\x7d']
  | closed _ => []

/-- The completion of a state leads from it to a record, unless what stands for a name is none. -/
theorem completion_reads {progress : Progress} (position : Nat)
    (hopen : progress.record? = none)
    (hname : ∀ kind fields key, progress = keyed kind fields key → key.kind = .identifier) :
    ∃ tokens record, scanFrom none position progress.completion = .ok tokens ∧
      tokens.foldlM take progress = .ok (closed record) := by
  have hempty : TextLiteral.decode "\"\"" = .ok "" := by decide
  have hend (position : Nat) (kind : Text) (fields : List (Text × Text)) (name : Text) :
      [single .mark '\x7d' position].foldlM take (valued kind fields name) =
        .ok (closed ⟨kind, fields⟩) :=
    foldlM_cons_eq_ok.mpr ⟨_, .closing rfl, rfl⟩
  have hvalue (position : Nat) (kind : Text) (fields : List (Text × Text)) (name : Text) :
      [⟨.quoted, "\"\"", position⟩, single .mark '\x7d' (position + 2)].foldlM take
        (awaiting kind fields name) = .ok (closed ⟨kind, fields ++ [(name, ("" : Text))]⟩) :=
    foldlM_cons_eq_ok.mpr ⟨_, .value (.inl rfl) hempty, hend (position + 2) kind _ name⟩
  have hbraces (position : Nat) (kind : Text) :
      [single .mark '\x7b' position, single .mark '\x7d' (position + 1)].foldlM take
        (named kind) = .ok (closed ⟨kind, []⟩) :=
    foldlM_cons_eq_ok.mpr
      ⟨_, .opening rfl, foldlM_cons_eq_ok.mpr ⟨_, .noField rfl, rfl⟩⟩
  cases progress with
  | start =>
      refine ⟨⟨.identifier, "a", position⟩ :: _, ⟨"a", []⟩, rfl, ?_⟩
      exact foldlM_cons_eq_ok.mpr ⟨_, .kind rfl, hbraces (position + 1) "a"⟩
  | named kind => exact ⟨_, _, rfl, hbraces position kind⟩
  | listing kind fields => exact ⟨_, _, rfl, foldlM_cons_eq_ok.mpr ⟨_, .noField rfl, rfl⟩⟩
  | keyed kind fields key =>
      refine ⟨single .mark ':' position :: _, ⟨kind, fields ++ [(key.text, ("" : Text))]⟩, rfl, ?_⟩
      exact foldlM_cons_eq_ok.mpr
        ⟨_, .colon rfl (hname kind fields key rfl), hvalue (position + 1) kind _ _⟩
  | awaiting kind fields name => exact ⟨_, _, rfl, hvalue position kind fields name⟩
  | valued kind fields name => exact ⟨_, _, rfl, hend position kind fields name⟩
  | closed record => exact nomatch hopen

/-- The last token that was taken, if any was. -/
theorem foldlM_eq_ok_cases {tokens : List Token} {last : Progress}
    (h : tokens.foldlM take start = .ok last) :
    (tokens = [] ∧ last = start) ∨ ∃ init progress token, tokens = init ++ [token] ∧
      init.foldlM take start = .ok progress ∧ Takes progress token last := by
  rcases List.eq_nil_or_concat tokens with rfl | ⟨init, token, rfl⟩
  · exact .inl ⟨rfl, (Except.ok.inj h).symm⟩
  · rw [List.concat_eq_append] at h ⊢
    obtain ⟨progress, hinit, hlast⟩ := foldlM_append_eq_ok.mp h
    obtain ⟨next, htake, hnext⟩ := foldlM_cons_eq_ok.mp hlast
    obtain rfl := Except.ok.inj hnext
    exact .inr ⟨init, progress, token, rfl, hinit, htake⟩

/-- After an opening brace or a comma a field name is due. -/
theorem Takes.listing_of_mark {progress next : Progress} {mark : Token}
    (hlexeme : Lexeme mark.kind mark.text.toList)
    (hmark : mark.text = "\x7b" ∨ mark.text = ",") (h : Takes progress mark next) :
    ∃ kind fields, next = listing kind fields := by
  have hkind : mark.kind = .mark := by
    rcases hmark with htext | htext
    · exact (isMark_of_text hlexeme isMark_opening htext).1
    · exact (isMark_of_text hlexeme isMark_comma htext).1
  cases h with
  | kind hidentifier => simp [hidentifier] at hkind
  | opening | comma => exact ⟨_, _, rfl⟩
  | key _ hnot => exact absurd hkind hnot
  | noField htext | closing htext | colon htext => simp [htext] at hmark
  | value hliteral => rcases hliteral with h | h <;> simp [h] at hkind

/-- After what is no identifier although a field name is due, no tokens make a record. -/
theorem not_closed_of_bad_name {kind : Text} {fields : List (Text × Text)} {key : Token}
    {tokens : List Token} {record : Record} (hkey : key.kind ≠ .identifier)
    (hlexeme : Lexeme key.kind key.text.toList) (hmark : key.kind ≠ .mark) :
    (key :: tokens).foldlM take (listing kind fields) ≠ .ok (closed record) := by
  intro h
  obtain ⟨next, htake, h⟩ := foldlM_cons_eq_ok.mp h
  cases htake with
  | noField htext => exact text_ne_of_kind hlexeme isMark_closing hmark htext
  | key =>
      cases tokens with
      | nil => exact nomatch h
      | cons colon tokens =>
          obtain ⟨_, htake, -⟩ := foldlM_cons_eq_ok.mp h
          cases htake with
          | colon _ hidentifier => exact hkey hidentifier

end Progress

/-- A text ends in what is no identifier although a field name is due: it stands right after the
opening brace or a comma. -/
def EndsInBadName (text : Text) : Prop :=
  ∃ (tokens : List Token) (mark key : Token), scan text = .ok (tokens ++ [mark, key]) ∧
    (mark.text = "\x7b" ∨ mark.text = ",") ∧ key.kind ≠ .identifier

/-- Before what is no identifier although a field name is due, the fields so far were read. -/
theorem listing_of_endsInBadName {tokens : List Token} {mark key : Token} {progress : Progress}
    (hlexeme : Lexeme mark.kind mark.text.toList) (hmark : mark.text = "\x7b" ∨ mark.text = ",")
    (hfold : (tokens ++ [mark, key]).foldlM Progress.take .start = .ok progress) :
    ∃ kind fields, (tokens ++ [mark]).foldlM Progress.take .start = .ok (.listing kind fields) ∧
      Progress.Takes (.listing kind fields) key progress := by
  obtain ⟨before, hbefore, hfold⟩ := Progress.foldlM_append_eq_ok.mp hfold
  obtain ⟨due, htakeMark, hfold⟩ := Progress.foldlM_cons_eq_ok.mp hfold
  obtain ⟨_, htakeKey, hlast⟩ := Progress.foldlM_cons_eq_ok.mp hfold
  obtain rfl := Except.ok.inj hlast
  obtain ⟨kind, fields, rfl⟩ := htakeMark.listing_of_mark hlexeme hmark
  have hdue : (tokens ++ [mark]).foldlM Progress.take .start = .ok (.listing kind fields) :=
    Progress.foldlM_append_eq_ok.mpr
      ⟨before, hbefore, Progress.foldlM_cons_eq_ok.mpr ⟨_, htakeMark, rfl⟩⟩
  exact ⟨kind, fields, hdue, htakeKey⟩

/-- No text completes one that ends in what is no identifier although a field name is due. -/
theorem not_completable_of_endsInBadName {text : Text} (h : ofLiteral text = .ok none)
    (hbad : EndsInBadName text) (more : Text) (record : Record) :
    ofLiteral (text ++ more) ≠ .ok (some record) := by
  intro hread
  obtain ⟨tokens, mark, key, hscan, hmark, hkey⟩ := hbad
  obtain ⟨_, progress, hscan', hfold, hopen⟩ := ofLiteral_eq_ok h
  obtain rfl := Except.ok.inj (hscan.symm.trans hscan')
  obtain ⟨kind, fields, hdue, htake⟩ :=
    listing_of_endsInBadName ((scan_tiled hscan).lexeme_of_mem (by simp)) hmark hfold
  have hkeyMark : key.kind ≠ .mark := by
    cases htake with
    | noField => exact nomatch hopen
    | key _ hkind => exact hkind
  rw [List.append_cons tokens mark [key]] at hscan
  obtain ⟨all, reached, hscanAll, hfoldAll, hrecord⟩ := ofLiteral_eq_ok hread
  obtain rfl := Progress.eq_closed hrecord
  obtain ⟨name, rest, rfl, hname, hnameMark⟩ := exists_of_scan_append hscan hkey hkeyMark hscanAll
  obtain ⟨_, hsame, hclosed⟩ := Progress.foldlM_append_eq_ok.mp hfoldAll
  obtain rfl := Except.ok.inj (hdue.symm.trans hsame)
  exact Progress.not_closed_of_bad_name hname
    ((scan_tiled hscanAll).lexeme_of_mem (by simp)) hnameMark hclosed

/-- What stands for a field name is an identifier, unless the text ends in what is none. -/
theorem name_of_not_endsInBadName {text : Text} {tokens : List Token} {kind : Text}
    {fields : List (Text × Text)} {key : Token} (hscan : scan text = .ok tokens)
    (hfold : tokens.foldlM Progress.take .start = .ok (.keyed kind fields key))
    (hgood : ¬ EndsInBadName text) : key.kind = .identifier := by
  by_contra hkey
  apply hgood
  rcases Progress.foldlM_eq_ok_cases hfold with ⟨-, h⟩ | ⟨init, _, key, rfl, hdue, htake⟩
  · exact nomatch h
  cases htake with
  | key =>
      rcases Progress.foldlM_eq_ok_cases hdue with ⟨-, h⟩ | ⟨before, _, mark, rfl, -, htake⟩
      · exact nomatch h
      rw [List.append_assoc] at hscan
      cases htake with
      | opening htext => exact ⟨before, mark, key, hscan, .inl htext, hkey⟩
      | comma htext => exact ⟨before, mark, key, hscan, .inr htext, hkey⟩

/-- The completion of what was read is scanned behind the text as it is alone. -/
theorem scanFrom_completion {next : Option Pending} {first last tokens : List Token}
    {progress : Progress} {position : Nat} (hsettle : settle next = .ok last)
    (hfold : (first ++ last).foldlM Progress.take .start = .ok progress)
    (hopen : progress.record? = none)
    (hcompletion : scanFrom none position progress.completion = .ok tokens) :
    scanFrom next position progress.completion = .ok (last ++ tokens) := by
  cases progress with
  | start =>
      -- Nothing was taken, so nothing is in progress either.
      rcases Progress.foldlM_eq_ok_cases hfold with ⟨hnil, -⟩ | ⟨_, _, _, -, -, htake⟩
      · obtain rfl := (List.append_eq_nil_iff.mp hnil).2
        cases next with
        | none => exact hcompletion
        | some p =>
            obtain ⟨token, -, hsingle⟩ := map_eq_ok.mp hsettle
            exact nomatch hsingle
      · exact nomatch htake
  | named | listing | keyed | awaiting | valued =>
      refine (scanFrom_divider (by decide) hsettle _).trans ?_
      exact congrArg (Except.map (last ++ ·)) hcompletion
  | closed record => exact nomatch hopen

/-- Any other unfinished record can be completed. -/
theorem completable_of_not_endsInBadName {text : Text} (h : ofLiteral text = .ok none)
    (hgood : ¬ EndsInBadName text) :
    ∃ more record, ofLiteral (text ++ more) = .ok (some record) := by
  obtain ⟨_, progress, hscan, hfold, hopen⟩ := ofLiteral_eq_ok h
  obtain ⟨first, next, last, hfeed, hsettle, rfl⟩ := scanFrom_eq_ok hscan
  have hname : ∀ kind fields key, progress = .keyed kind fields key → key.kind = .identifier := by
    rintro kind fields key rfl
    exact name_of_not_endsInBadName hscan hfold hgood
  obtain ⟨tokens, record, hcompletion, hclosed⟩ :=
    Progress.completion_reads text.toList.length hopen hname
  have hall : scan (text ++ Text.ofList progress.completion) =
      .ok (first ++ (last ++ tokens)) := by
    rw [scan_append hfeed, Text.toList_ofList,
      scanFrom_completion hsettle hfold hopen hcompletion]
    rfl
  have hread : (first ++ (last ++ tokens)).foldlM Progress.take .start = .ok (.closed record) := by
    rw [← List.append_assoc]
    exact Progress.foldlM_append_eq_ok.mpr ⟨progress, hfold, hclosed⟩
  exact ⟨Text.ofList progress.completion, record, ofLiteral_of_scan hall hread⟩

/-- An unfinished record can be completed exactly when it does not end in what is no identifier
although a field name is due. -/
theorem completable_iff_not_endsInBadName {text : Text} (h : ofLiteral text = .ok none) :
    (∃ more record, ofLiteral (text ++ more) = .ok (some record)) ↔ ¬ EndsInBadName text := by
  constructor
  · rintro ⟨more, record, hread⟩ hbad
    exact not_completable_of_endsInBadName h hbad more record hread
  · intro hgood
    exact completable_of_not_endsInBadName h hgood

/-- A cut between a field name and its colon can be mended. -/
theorem completable_after_name :
    ofLiteral "click\x7ba" = .ok none ∧
      ((∃ more record, ofLiteral ("click\x7ba" ++ more) = .ok (some record)) ↔
        ¬ EndsInBadName "click\x7ba") :=
  ⟨by decide, completable_iff_not_endsInBadName (by decide)⟩

/-- The reader asks for more after a text literal in place of the first field name, but no text
makes a record of it. -/
theorem unfinished_and_not_completable :
    ofLiteral "click\x7b\"x\"" = .ok none ∧
      ∀ more record, ofLiteral ("click\x7b\"x\"" ++ more) ≠ .ok (some record) := by
  have hunfinished : ofLiteral "click\x7b\"x\"" = .ok none := by decide
  have hbad : EndsInBadName "click\x7b\"x\"" :=
    ⟨[⟨.identifier, "click", 0⟩], single .mark '\x7b' 5, ⟨.quoted, "\"x\"", 6⟩, by decide,
      .inl (by decide), by decide⟩
  exact ⟨hunfinished, not_completable_of_endsInBadName hunfinished hbad⟩

end Record

end Playbook
