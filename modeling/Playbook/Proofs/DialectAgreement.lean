import Mathlib.Data.List.Infix
import Mathlib.Data.List.TakeWhile
import Playbook.Proofs.Effects
import Playbook.Proofs.LiteralLines

/-! # Both dialects play the same records alike

The lines of a playbook amount to the records that are written on them, and these are played in
order, whatever the dialect and wherever lines break a record. What is left over at the end is blank,
so nothing is amiss there. -/

namespace Playbook

open Text Record

/-- Lines that write records as composite literals. Lines may break a record, though not inside a
value, and blank lines may stand between records. -/
inductive WritesLiterals : List Record → List Text → Prop
  | nil : WritesLiterals [] []
  | blank {records line lines} (hline : isBlankText line = true)
      (tail : WritesLiterals records lines) : WritesLiterals records (line :: lines)
  | record {record parts lines records more} (hparts : Parts record parts)
      (hlines : List.Forall₂ IsLine parts lines) (tail : WritesLiterals records more) :
      WritesLiterals (record :: records) (lines ++ more)

/-- Lines that write one record each as pairs, and blank lines. -/
inductive WritesFlats : List Record → List Text → Prop
  | nil : WritesFlats [] []
  | blank {records line lines} (hline : isBlankText line = true)
      (tail : WritesFlats records lines) : WritesFlats records (line :: lines)
  | record {record pairs line records more} (hpairs : WritesPairs record.fields pairs)
      (hline : IsLine (record.kind ++ pairs) line) (tail : WritesFlats records more) :
      WritesFlats (record :: records) (line :: more)

/-- There is no record on a blank text. -/
theorem Dialect.read_of_isBlankText (dialect : Dialect) {text : Text}
    (h : isBlankText text = true) : dialect.read text = .ok none := by
  cases dialect with
  | literal =>
      have hscan : Token.scan text = .ok [] := by
        rw [Token.scan, ← List.append_nil text.toList, Token.scanFrom_blank h, Token.scanFrom_nil]
        rfl
      exact ofLiteral_of_scan hscan rfl
  | flat =>
      have hstart : text.toList.dropWhile isBlank = [] := by
        rw [List.dropWhile_eq_nil_iff]
        exact List.all_eq_true.mp h
      have hpairs : readPairs 0 text.toList = .ok [] := by
        rw [readPairs]
        simp [hstart]
      simp [read, ofFlat, hpairs, ofPairs]

namespace Production

variable {τ : Type} [TimeScale τ] {production : Production} {buffer line : Text}
  {record : Record} {records more : List Record} {lines rest : List Text}

/-- Make the step of a record and perform it. -/
def playRecord (production : Production) (record : Record) : Running τ Unit :=
  match Step.ofRecord production.vocabulary record with
  | .error fault => throw (.unbuildable fault)
  | .ok step => production.proceed step

/-- Play records in order, up to the fault that ends them, if one does. -/
def playAll (production : Production) (records : List Record) (fault : Option Fault) :
    Running τ Unit := do
  forM records production.playRecord
  match fault with
  | some fault => throw (Source.raised fault)
  | none => pure ()

/-- A production in some dialect. -/
def inDialect (production : Production) (dialect : Dialect) : Production :=
  { production with dialect := dialect }

/-- The dialect decides how records are read and not how they are played. -/
theorem playAll_inDialect (dialect : Dialect) (records : List Record) (fault : Option Fault) :
    ((production.inDialect dialect).playAll records fault : Running τ Unit) =
      production.playAll records fault := rfl

/-- A line that completes a record plays it, and nothing is left over. -/
theorem takeLine_of_record
    (h : production.dialect.read (production.addLine buffer line) = .ok (some record)) :
    (production.takeLine buffer line : Running τ Text) = do
      production.playRecord record
      return "" := by
  rw [takeLine, playRecord]
  simp only [Step.parse, h]
  cases Step.ofRecord production.vocabulary record with
  | error fault => rfl
  | ok step => rfl

/-- A line that completes no record is left over. -/
theorem takeLine_of_none
    (h : production.dialect.read (production.addLine buffer line) = .ok none) :
    (production.takeLine buffer line : Running τ Text) =
      pure (production.addLine buffer line) := by
  simp only [takeLine, Step.parse, h]

theorem takeLines_append (buffer : Text) (lines rest : List Text) :
    (production.takeLines buffer (lines ++ rest) : Running τ Text) =
      production.takeLines buffer lines >>= fun left => production.takeLines left rest := by
  induction lines generalizing buffer with
  | nil => simp [takeLines]
  | cons line lines ih => simp [takeLines, ih]

/-- Lines amount to records if taking them plays the records in order, whatever blank text was left
over before, and leaves nothing but blank text. -/
def Plays (τ : Type) [TimeScale τ] (production : Production) (records : List Record)
    (lines : List Text) : Prop :=
  ∀ gap, isBlankText gap = true → ∃ left, isBlankText left = true ∧
    (production.takeLines gap lines : Running τ Text) = do
      forM records production.playRecord
      return left

namespace Plays

theorem nil : Plays τ production [] [] := by
  intro gap hgap
  exact ⟨gap, hgap, by simp [takeLines]⟩

/-- Lines that follow one another amount to the records of both. -/
theorem append (hfirst : Plays τ production records lines)
    (hrest : Plays τ production more rest) :
    Plays τ production (records ++ more) (lines ++ rest) := by
  intro gap hgap
  obtain ⟨middle, hmiddle, htake⟩ := hfirst gap hgap
  obtain ⟨left, hleft, htake'⟩ := hrest middle hmiddle
  refine ⟨left, hleft, ?_⟩
  rw [takeLines_append, htake, List.forM_append]
  simp [htake']

/-- A blank line amounts to nothing. -/
theorem blank (hline : isBlankText line = true) : Plays τ production [] [line] := by
  intro gap hgap
  have hbuffer : isBlankText (production.addLine gap line) = true := by
    have htrim := isBlankText_trimLineEnd hline
    rw [addLine]
    split
    · exact isBlankText_append.mpr ⟨hgap, htrim⟩
    · exact htrim
  refine ⟨_, hbuffer, ?_⟩
  simp [takeLines, takeLine_of_none (production.dialect.read_of_isBlankText hbuffer)]

/-- A flat line amounts to its record. -/
theorem flat (hdialect : production.dialect = .flat) (hwritable : record.Writable) {pairs : Text}
    (hpairs : WritesPairs record.fields pairs) (hline : IsLine (record.kind ++ pairs) line) :
    Plays τ production [record] [line] := by
  intro gap _
  have hread : production.dialect.read (production.addLine gap line) = .ok (some record) := by
    have htext := (oneLine_of_isIdentifier hwritable.kind).append (hpairs.oneLine hwritable.names)
    rw [addLine, hdialect, trimLineEnd_of_isLine hline htext]
    exact ofFlat_of_writesPairs hwritable.kind hwritable.names hwritable.values hpairs
  refine ⟨"", rfl, ?_⟩
  simp [takeLines, takeLine_of_record hread]

/-- Lines that hold nothing amount to nothing. -/
theorem of_empty_parts {parts : List Text} (hlines : List.Forall₂ IsLine parts lines)
    (hempty : Text.join parts = "") : Plays τ production [] lines := by
  induction hlines with
  | nil => exact nil
  | @cons part line parts lines hline _ ih =>
      rw [Text.join_cons, Text.append_eq_empty_iff] at hempty
      obtain ⟨ending, hending, rfl⟩ := hline
      have hblank : isBlankText (part ++ ending) = true := by
        rw [hempty.1, Text.empty_append, isBlankText, List.all_eq_true]
        intro c hc
        exact isBlank_of_isLineEnd (hending c hc)
      exact (blank hblank).append (ih hempty.2)

/-- The lines that break a composite literal amount to its record: before the last of its parts has
come in, there is no record yet. -/
theorem literal (hdialect : production.dialect = .literal) (hwritable : record.Writable)
    {parts : List Text} (hparts : Parts record parts) (hlines : List.Forall₂ IsLine parts lines) :
    Plays τ production [record] lines := by
  intro gap hgap
  suffices hrest : ∀ first rest ends, parts = first ++ rest → List.Forall₂ IsLine rest ends →
      Text.join first ≠ record.literalText → ∃ left, isBlankText left = true ∧
        (production.takeLines (gap ++ Text.join first) ends : Running τ Text) =
          (forM [record] production.playRecord >>= fun _ => pure left) by
    have hopen : Text.join [] ≠ record.literalText := by
      simp [literalText]
    simpa using hrest [] parts lines rfl hlines hopen
  intro first rest ends hsplit hends hopen
  induction hends generalizing first with
  | nil =>
      rw [List.append_nil] at hsplit
      exact absurd (hsplit ▸ hparts.joined) hopen
  | @cons part line rest ends hline hends ih =>
      have hall : parts = (first ++ [part]) ++ rest := by simp [hsplit]
      have hbuffer : production.addLine (gap ++ Text.join first) line =
          gap ++ Text.join (first ++ [part]) := by
        rw [addLine, hdialect, trimLineEnd_of_isLine hline (hparts.oneLine hwritable hsplit)]
        simp [Text.append_assoc]
      have hread : production.dialect.read (production.addLine (gap ++ Text.join first) line) =
          .ok (if Text.join (first ++ [part]) = record.literalText then some record
            else none) := by
        rw [hdialect, hbuffer]
        exact hparts.ofLiteral_join hwritable hall hgap
      rw [takeLines]
      by_cases hclosed : Text.join (first ++ [part]) = record.literalText
      · rw [if_pos hclosed] at hread
        have hempty : Text.join rest = "" := by
          have hjoined := hparts.joined
          rw [hall, Text.join_append, hclosed] at hjoined
          simpa using hjoined
        have hnothing : Plays τ production [] _ := of_empty_parts hends hempty
        obtain ⟨left, hleft, htake⟩ := hnothing "" rfl
        refine ⟨left, hleft, ?_⟩
        simp [takeLine_of_record hread, htake]
      · rw [if_neg hclosed] at hread
        rw [takeLine_of_none hread, hbuffer, pure_bind]
        exact ih (first ++ [part]) hall hclosed

/-- Lines of composite literals amount to the records that they write. -/
theorem of_writesLiterals (hdialect : production.dialect = .literal)
    (h : WritesLiterals records lines) (hwritable : ∀ record ∈ records, record.Writable) :
    Plays τ production records lines := by
  induction h with
  | nil => exact nil
  | blank hline _ ih => exact (blank hline).append (ih hwritable)
  | record hparts hlines _ ih =>
      have hfirst : Plays τ production _ _ := literal hdialect (hwritable _ (by simp)) hparts hlines
      exact hfirst.append (ih fun record hrecord => hwritable record (by simp [hrecord]))

/-- Flat lines amount to the records that they write. -/
theorem of_writesFlats (hdialect : production.dialect = .flat) (h : WritesFlats records lines)
    (hwritable : ∀ record ∈ records, record.Writable) : Plays τ production records lines := by
  induction h with
  | nil => exact nil
  | blank hline _ ih => exact (blank hline).append (ih hwritable)
  | record hpairs hline _ ih =>
      have hfirst : Plays τ production _ _ := flat hdialect (hwritable _ (by simp)) hpairs hline
      exact hfirst.append (ih fun record hrecord => hwritable record (by simp [hrecord]))

/-- Following lines that amount to records is playing these. -/
theorem follow_eq (h : Plays τ production records lines) (fault : Option Fault) :
    (production.follow (.listed lines fault) : Running τ Unit) =
      production.playAll records fault := by
  obtain ⟨left, hleft, htake⟩ := h "" rfl
  rw [follow, takeSource, htake]
  cases fault with
  | none => simp [playAll, hleft]
  | some fault => simp [playAll]

end Plays

/-- Lines of either dialect that write the same records, with values that hold no surrogates, are played
alike, wherever lines break a composite literal: with the same outcome, and leaving the same state. -/
theorem run_of_written_records (hwritable : ∀ record ∈ records, record.Writable)
    {literals flats : List Text} (hliterals : WritesLiterals records literals)
    (hflats : WritesFlats records flats) (production : Production) (fault : Option Fault)
    (state : RunState τ) :
    upshot ((production.inDialect .literal).run (.listed literals fault)) state =
      upshot ((production.inDialect .flat).run (.listed flats fault)) state := by
  have hliteral : Plays τ (production.inDialect .literal) records literals :=
    .of_writesLiterals rfl hliterals hwritable
  have hflat : Plays τ (production.inDialect .flat) records flats :=
    .of_writesFlats rfl hflats hwritable
  have hfollow :
      ((production.inDialect .literal).follow (.listed literals fault) : Running τ Unit) =
        (production.inDialect .flat).follow (.listed flats fault) := by
    rw [hliteral.follow_eq, hflat.follow_eq, playAll_inDialect, playAll_inDialect]
  rw [run, run, hfollow]
  rfl

/-- A record that is broken in its kind and around its value, with blank lines before and after it. -/
theorem run_of_broken_tap :
    (∀ record ∈ [(⟨"tap", [("a", "b c")]⟩ : Record)], record.Writable) ∧
      WritesLiterals [⟨"tap", [("a", "b c")]⟩]
        [" \t\n", "ta\r\n", "\n", "p\x7ba:", "\"b c\"\n", "\x7d", ""] ∧
      WritesFlats [⟨"tap", [("a", "b c")]⟩] ["\n", "tap a=\"b c\"\n"] ∧
      ∀ (production : Production) (fault : Option Fault) (state : RunState Float),
        upshot ((production.inDialect .literal).run (.listed
            [" \t\n", "ta\r\n", "\n", "p\x7ba:", "\"b c\"\n", "\x7d", ""] fault)) state =
          upshot ((production.inDialect .flat).run (.listed
            ["\n", "tap a=\"b c\"\n"] fault)) state := by
  have hwritable : ∀ record ∈ [(⟨"tap", [("a", "b c")]⟩ : Record)], record.Writable := by
    intro record hrecord
    obtain rfl := List.mem_singleton.mp hrecord
    exact ⟨by decide, by decide, by decide⟩
  have hscan : Token.scan (literalText ⟨"tap", [("a", "b c")]⟩) =
      .ok [⟨.identifier, "tap", 0⟩, ⟨.mark, "\x7b", 3⟩, ⟨.identifier, "a", 4⟩, ⟨.mark, ":", 5⟩,
        ⟨.quoted, "\"b c\"", 6⟩, ⟨.mark, "\x7d", 11⟩] := by decide
  have hparts : Parts ⟨"tap", [("a", "b c")]⟩ ["ta", "", "p\x7ba:", "\"b c\"", "\x7d"] := by
    constructor
    case joined => decide
    case unbroken =>
      intro first hfirst layout literal hvalue
      have hmem : literal ∈ layout.tokens := by simp [Layout.tokens, hvalue.1]
      rw [Except.ok.inj (layout.scan_eq.symm.trans hscan)] at hmem
      have hliteral : literal = ⟨.quoted, "\"b c\"", 6⟩ := by
        have hkind := hvalue.2
        simp only [List.mem_cons, List.not_mem_nil, or_false] at hmem
        rcases hmem with rfl | rfl | rfl | rfl | rfl | rfl <;> first | rfl | simp at hkind
      rw [hliteral, Token.Inside]
      rw [← List.mem_inits] at hfirst
      revert first
      decide
  have hline {text : Text} : IsLine text (text ++ "\n") := ⟨"\n", by simp [isLineEnd]⟩
  have hend {text : Text} : IsLine text text := ⟨"", by simp⟩
  have hends : List.Forall₂ IsLine ["ta", "", "p\x7ba:", "\"b c\"", "\x7d"]
      ["ta\r\n", "\n", "p\x7ba:", "\"b c\"\n", "\x7d"] :=
    .cons ⟨"\r\n", by decide, rfl⟩ (.cons hline (.cons hend (.cons hline (.cons hend .nil))))
  have hliterals : WritesLiterals [⟨"tap", [("a", "b c")]⟩]
      [" \t\n", "ta\r\n", "\n", "p\x7ba:", "\"b c\"\n", "\x7d", ""] :=
    .blank (by decide) (.record hparts hends (.blank (by decide) .nil))
  have hflats : WritesFlats [⟨"tap", [("a", "b c")]⟩] ["\n", "tap a=\"b c\"\n"] :=
    .blank (by decide) (.record (.cons .quoted .nil) hline .nil)
  exact ⟨hwritable, hliterals, hflats, run_of_written_records hwritable hliterals hflats⟩

/-- A record whose value is the surrogate that stands for the octet 255. -/
def oddLoad : Record := ⟨"load", [("url", Text.singleton (Utf8.escapeOctet 0xFF))]⟩

/-- The flat line that writes it. -/
def oddLine : Text := "load url=" ++ Text.singleton (Utf8.escapeOctet 0xFF)

/-- How a line ends that is run in a dialect on an open page without rules. -/
def oddLoadRun (dialect : Dialect) (line : Text) : Except Fault Unit × RunState Float :=
  let started := Program.start Settings.default [] [] none .empty .strict
  let opened := (upshot (Running.onStage Play.enter) started).2
  upshot (Production.run ⟨.builtin, dialect, none, ""⟩ (.listed [line] none)) opened

/-- Of a record whose value is a surrogate the composite literal is refused, and the flat line is
performed. -/
theorem run_of_surrogate_differs :
    isIdentifier oddLoad.kind.toList = true ∧
      (∀ field ∈ oddLoad.fields, isIdentifier field.1.toList = true) ∧
      WritesLiterals [oddLoad] [oddLoad.literalText] ∧ WritesFlats [oddLoad] [oddLine] ∧
      (oddLoadRun .literal oddLoad.literalText).1.mapError Fault.className =
        .error "UnicodeEncodeError" ∧
      (oddLoadRun .literal oddLoad.literalText).2.suite.cases = [] ∧
      (oddLoadRun .flat oddLine).1 = .ok () ∧
      (oddLoadRun .flat oddLine).2.suite.cases.map Outcome.success = [true] := by
  have hline {text : Text} : IsLine text text := ⟨"", by simp⟩
  -- The literal is refused, so it has no layout, and none of its parts ends inside a value.
  have hparts : Parts oddLoad [oddLoad.literalText] := by
    have hrefused : ofLiteral oddLoad.literalText ≠ .ok (some oddLoad) := by decide
    exact ⟨by decide, fun first _ layout => absurd layout.ofLiteral_eq hrefused⟩
  exact ⟨by decide, by decide, .record hparts (.cons hline .nil) .nil,
    .record (.cons (.bare (by decide)) .nil) hline .nil, by decide +kernel, by decide +kernel,
    by decide +kernel, by decide +kernel⟩

end Production

end Playbook
