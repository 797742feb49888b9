import Playbook.Proofs.Encodings
import Playbook.Fault

/-! # Files on the disk

A path in normal form names nothing that the path did not name, so that only a path that holds a null
character or cannot be encoded is refused for it. A file that was written is found under its path with
the content that was written, and where no file can be written none is found. -/

namespace Playbook

namespace Path

theorem mem_splitAt {α : Type} [DecidableEq α] {separator c : α} {cs part : List α}
    (hpart : part ∈ splitAt separator cs) (hc : c ∈ part) : c ∈ cs := by
  induction cs generalizing part with
  | nil =>
      obtain rfl := List.mem_singleton.mp hpart
      exact hc
  | cons d ds ih =>
      rw [splitAt] at hpart
      split at hpart
      · rcases List.mem_cons.mp hpart with rfl | hpart
        · simp at hc
        · exact List.mem_cons_of_mem d (ih hpart hc)
      · split at hpart
        · obtain rfl := List.mem_singleton.mp hpart
          exact List.mem_cons.mpr (.inl (List.mem_singleton.mp hc))
        · rename_i first parts hsplit
          rcases List.mem_cons.mp hpart with rfl | hpart
          · rcases List.mem_cons.mp hc with rfl | hc
            · exact List.mem_cons_self
            · exact List.mem_cons_of_mem d (ih (hsplit ▸ List.mem_cons_self) hc)
          · exact List.mem_cons_of_mem d (ih (hsplit ▸ List.mem_cons_of_mem first hpart) hc)

theorem mem_intercalate {c : CodePoint} {separator : Text} {parts : List Text}
    (h : c ∈ (separator.intercalate parts).toList) :
    c ∈ separator.toList ∨ ∃ part ∈ parts, c ∈ part.toList := by
  induction parts with
  | nil => simp at h
  | cons part parts ih =>
      cases parts with
      | nil => exact .inr ⟨part, List.mem_singleton.mpr rfl, by simpa using h⟩
      | cons next parts =>
          simp only [Text.intercalate_cons_cons, Text.toList_append, List.mem_append] at h
          rcases h with (h | h) | h
          · exact .inr ⟨part, List.mem_cons_self, h⟩
          · exact .inl h
          · refine (ih h).imp_right ?_
            rintro ⟨other, hother, hc⟩
            exact ⟨other, List.mem_cons_of_mem part hother, hc⟩

/-- The normal form of a path has no characters but those of the path, slashes and a dot. -/
theorem mem_text_ofText {c : CodePoint} {path : Text} (h : c ∈ (ofText path).text.toList) :
    c = '/' ∨ c = '.' ∨ c ∈ path.toList := by
  have hroot : ∀ d ∈ (rootOf path).toList, d = '/' := by
    rw [rootOf]
    split <;> simp
  rw [text] at h
  split at h
  · exact .inr (.inl (by simpa using h))
  · simp only [Text.toList_append, List.mem_append] at h
    rcases h with h | h
    · exact .inl (hroot c h)
    · rcases mem_intercalate h with h | ⟨part, hpart, h⟩
      · exact .inl (by simpa using h)
      · simp only [ofText, List.mem_filter, split, List.mem_map] at hpart
        obtain ⟨⟨chars, hchars, rfl⟩, -⟩ := hpart
        exact .inr (.inr (mem_splitAt hchars (by simpa using h)))

end Path

namespace Disk

variable {disk after : Disk} {path : Text} {location place : Location} {content : List UInt8}

/-- A path that can name a file: it holds no null character and can be encoded. -/
structure Names (path : Text) : Prop where
  noNull : .scalar '\x00' ∉ path.toList
  encodable : ∃ octets, path.encode .escape = .ok octets

/-- So can its normal form. -/
theorem Names.normal (h : Names path) : Names (Path.ofText path).text where
  noNull hnull := by
    rcases Path.mem_text_ofText hnull with hslash | hdot | hnull
    · exact absurd hslash (by decide)
    · exact absurd hdot (by decide)
    · exact h.noNull hnull
  encodable := by
    refine Text.exists_encode_iff.mpr fun n hn => ?_
    rcases Path.mem_text_ofText hn with hslash | hdot | hn
    · cases hslash
    · cases hdot
    · exact Text.exists_encode_iff.mp h.encodable n hn

/-- Following a part of a path is refused with a fault of the system. -/
theorem system_of_follow {part : List UInt8} {cause : DiskCause}
    (h : disk.follow location part = .error cause) : cause.family = .system := by
  rw [follow] at h
  repeat' split at h
  all_goals cases h <;> rfl

/-- A path that can name a file is refused with a fault of the system. -/
theorem system_of_locate {cause : DiskCause} (h : Names path) (hlocate : disk.locate path = .error cause) :
    cause.family = .system := by
  have hfollow {parts : List (List UInt8)} {location : Location}
      (hparts : parts.foldlM disk.follow location = .error cause) : cause.family = .system := by
    induction parts generalizing location with
    | nil => cases hparts
    | cons part parts ih =>
        rw [List.foldlM_cons] at hparts
        cases hpart : disk.follow location part with
        | ok next =>
            rw [hpart] at hparts
            exact ih hparts
        | error first =>
            rw [hpart] at hparts
            obtain rfl := Except.error.inj hparts
            exact system_of_follow hpart
  obtain ⟨octets, hoctets⟩ := h.encodable
  rw [locate, hoctets] at hlocate
  dsimp only at hlocate
  rw [if_neg (by simpa using h.noNull)] at hlocate
  split at hlocate
  · cases hlocate
    rfl
  · split at hlocate
    · cases hlocate
      rfl
    · exact hfollow hlocate

theorem expected_of_write {fault : DiskFault} (h : Names path)
    (hwrite : disk.write path content = .error fault) : (Fault.disk fault).isExpected = true := by
  rw [write] at hwrite
  split at hwrite
  · rename_i cause hcause
    obtain rfl := Except.error.inj hwrite
    simp [Fault.isExpected, Fault.family, system_of_locate h hcause]
  · split at hwrite
    · obtain rfl := Except.error.inj hwrite
      rfl
    · cases hwrite

theorem entry?_put_self (disk : Disk) (entry : Entry) (h : location.names ≠ []) :
    entry? (disk.put location entry) location = some entry := by
  simp [ entry?, put, h]

/-- What is removed from a place is removed from no other one. -/
theorem lookup_filter_ne (entries : List (Location × Entry)) (h : place ≠ location) :
    (entries.filter (·.1 ≠ location)).lookup place = entries.lookup place := by
  induction entries with
  | nil => rfl
  | cons first entries ih =>
      obtain ⟨other, what⟩ := first
      by_cases hother : other = location
      · subst hother
        have hne : (place == other) = false := by simpa using h
        simp only [List.filter_cons, ne_eq, not_true_eq_false, decide_false, Bool.false_eq_true,
          if_false, List.lookup_cons, hne, ih]
      · simp only [List.filter_cons, ne_eq, hother, not_false_eq_true, decide_true, if_true,
          List.lookup_cons, ih]

theorem lookup_filter_self (entries : List (Location × Entry)) (location : Location) :
    (entries.filter (·.1 ≠ location)).lookup location = none := by
  refine List.lookup_eq_none_iff.mpr fun entry hentry => ?_
  have hne : entry.1 ≠ location := by simpa using (List.mem_filter.mp hentry).2
  simpa using hne.symm

/-- What is put at a place changes no other place. -/
theorem entry?_put_of_ne (disk : Disk) (entry : Entry) (h : place ≠ location) :
    entry? (disk.put location entry) place = disk.entry? place := by
  have hne : (place == location) = false := by simpa using h
  simp only [ entry?, put, List.lookup_cons, hne, lookup_filter_ne _ h]

/-- A way through the directories of a disk is one on every disk that has these directories. -/
theorem locate_of_directories (h : disk.locate path = .ok location)
    (hdirectory : ∀ place, disk.entry? place = some .directory →
      after.entry? place = some .directory) : after.locate path = .ok location := by
  have hfollow {parts : List (List UInt8)} {start : Location}
      (hparts : parts.foldlM disk.follow start = .ok location) :
      parts.foldlM after.follow start = .ok location := by
    induction parts generalizing start with
    | nil => exact hparts
    | cons part parts ih =>
        rw [List.foldlM_cons] at hparts ⊢
        obtain ⟨next, hnext, hrest⟩ := bind_eq_ok.mp hparts
        have hstart : disk.entry? start = some .directory := by
          rw [follow] at hnext
          split at hnext
          · cases hnext
          · cases hnext
          · assumption
        have hsame : after.follow start part = disk.follow start part := by
          rw [follow, follow, hstart, hdirectory start hstart]
        rw [hsame, hnext]
        exact ih hrest
  rw [locate] at h ⊢
  cases hencode : path.encode .escape with
  | error fault =>
      rw [hencode] at h
      cases h
  | ok octets =>
      rw [hencode] at h
      dsimp only at h ⊢
      split at h
      · cases h
      · rename_i hnull
        split at h
        · cases h
        · rename_i hempty
          split at h
          · cases h
          · rename_i hlong
            rw [if_neg hnull, if_neg hempty, if_neg hlong]
            exact hfollow h

/-- What is put where no directory stood hides no directory. -/
theorem directory_put (hentry : disk.entry? location ≠ some .directory) (entry : Entry)
    (h : disk.entry? place = some .directory) :
    entry? (disk.put location entry) place = some .directory := by
  have hne : place ≠ location := by
    rintro rfl
    exact hentry h
  rw [disk.entry?_put_of_ne entry hne, h]

theorem locate_put (h : disk.locate path = .ok location)
    (hentry : disk.entry? place ≠ some .directory) (entry : Entry) :
    (disk.put place entry).locate path = .ok location :=
  locate_of_directories h fun _ => directory_put hentry entry

/-- A file can be written under a path: its way leads to a place where no directory stands. -/
structure CanWrite (disk : Disk) (path : Text) (location : Location) : Prop where
  way : disk.locate path = .ok location
  free : disk.entry? location ≠ some .directory

namespace CanWrite

theorem names_ne_nil (h : disk.CanWrite path location) : location.names ≠ [] := by
  intro hnil
  exact h.free (by simp [ entry?, hnil])

theorem write_eq (h : disk.CanWrite path location) (content : List UInt8) :
    disk.write path content = .ok (disk.put location (.file content)) := by
  rw [write, h.way]
  dsimp only
  split
  · rename_i hdirectory
    exact absurd hdirectory h.free
  · rfl

theorem content?_put (h : disk.CanWrite path location) (content : List UInt8) :
    content? (disk.put location (.file content)) location = some content := by
  rw [content?, disk.entry?_put_self _ h.names_ne_nil]

end CanWrite

/-- Writing puts a file at a place where it can be written. -/
theorem canWrite_of_write (h : disk.write path content = .ok after) :
    ∃ location, disk.CanWrite path location ∧ after = disk.put location (.file content) := by
  rw [write] at h
  split at h
  · cases h
  · rename_i location hway
    split at h
    · cases h
    · rename_i hfree
      exact ⟨location, ⟨hway, hfree⟩, (Except.ok.inj h).symm⟩

/-- Writing a file neither makes nor removes a directory. -/
theorem directory_iff_of_write (h : disk.write path content = .ok after) (place : Location) :
    after.entry? place = some .directory ↔ disk.entry? place = some .directory := by
  obtain ⟨location, hlocation, rfl⟩ := canWrite_of_write h
  refine ⟨fun hplace => ?_, directory_put hlocation.free _⟩
  have hne : place ≠ location := by
    rintro rfl
    rw [disk.entry?_put_self _ hlocation.names_ne_nil] at hplace
    cases hplace
  rwa [disk.entry?_put_of_ne _ hne] at hplace

/-- A file that can be written can be written after any other. -/
theorem CanWrite.after_write {other : Text} (h : disk.CanWrite path location)
    (hwrite : disk.write other content = .ok after) : after.CanWrite path location := by
  obtain ⟨place, hplace, rfl⟩ := canWrite_of_write hwrite
  refine ⟨locate_put h.way hplace.free _, ?_⟩
  by_cases hsame : location = place
  · subst hsame
    rw [disk.entry?_put_self _ hplace.names_ne_nil]
    simp
  · rw [disk.entry?_put_of_ne _ hsame]
    exact h.free

/-- A file that was written is found under its path. -/
theorem placeOf_of_write (h : disk.write path content = .ok after) :
    ∃ location, after.placeOf path = .ok location ∧ after.content? location = some content := by
  obtain ⟨location, hlocation, rfl⟩ := canWrite_of_write h
  have hfile := disk.entry?_put_self (.file content) hlocation.names_ne_nil
  refine ⟨location, ?_, hlocation.content?_put content⟩
  rw [placeOf, locate_put hlocation.way hlocation.free]
  simp [hfile]

/-- Where a file cannot be written there is none. -/
theorem placeOf_of_write_error {fault : DiskFault} (h : disk.write path content = .error fault) :
    disk.placeOf path ≠ .ok location := by
  rw [write] at h
  rw [placeOf]
  split at h
  · simp_all
  · split at h
    · simp_all
    · cases h

end Disk

end Playbook
