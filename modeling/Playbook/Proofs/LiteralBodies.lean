import Playbook.Fault
import Playbook.Proofs.Escapes
import Playbook.Proofs.LenientUtf8
import Playbook.Proofs.LiteralFaults

/-! # What double-quoted literals denote

A literal is read exactly if its body is made up of pieces, and it denotes the lenient reading of the
octets that the pieces stand for. Every other literal is refused: with a fault of encoding if the reader
comes to a surrogate outside of escapes, and with a syntax fault else. Two bodies may be put together:
unless the octets of both are no UTF-8, the whole denotes what the parts denote. -/

namespace Playbook.TextLiteral

open Text Text.Utf8

/-- What a body denotes is the lenient reading of its octets. -/
theorem decode_enclosed_eq_ok_iff {body : List CodePoint} {text : Text} :
    decode (enclosed body) = .ok text ↔
      ∃ octets, Denotes body octets ∧ Lenient replace octets text.toList := by
  rw [decode_enclosed]
  cases hoctets : TextLiteral.octets body with
  | error cause =>
      refine iff_of_false (by simp) ?_
      rintro ⟨octets, hdenotes, -⟩
      cases hoctets.symm.trans (octets_eq_ok_iff.mpr hdenotes)
  | ok octets =>
      have hdenotes := octets_eq_ok_iff.mp hoctets
      constructor
      · intro h
        obtain rfl := Except.ok.inj h
        exact ⟨octets, hdenotes, decode_eq_iff.mp Text.toList_ofList.symm⟩
      · rintro ⟨others, hothers, hlenient⟩
        obtain rfl : octets = others :=
          Except.ok.inj (hoctets.symm.trans (octets_eq_ok_iff.mpr hothers))
        simp only [decode_eq_iff.mpr hlenient, Text.ofList_toList]

/-- A body denotes one run of octets. -/
theorem Denotes.unique {body : List CodePoint} {octets others : List UInt8} (h : Denotes body octets)
    (hother : Denotes body others) : octets = others :=
  Except.ok.inj ((octets_eq_ok_iff.mpr h).symm.trans (octets_eq_ok_iff.mpr hother))

/-- A body is read exactly if it denotes octets. -/
theorem exists_decode_enclosed_iff {body : List CodePoint} :
    (∃ text, decode (enclosed body) = .ok text) ↔ ∃ octets, Denotes body octets := by
  constructor
  · rintro ⟨text, htext⟩
    obtain ⟨octets, hdenotes, -⟩ := decode_enclosed_eq_ok_iff.mp htext
    exact ⟨octets, hdenotes⟩
  · rintro ⟨octets, hdenotes⟩
    have hlenient : Lenient replace octets (Text.ofList (Utf8.decode replace octets)).toList :=
      decode_eq_iff.mp Text.toList_ofList.symm
    exact ⟨_, decode_enclosed_eq_ok_iff.mpr ⟨octets, hdenotes, hlenient⟩⟩

/-- Two bodies that are read are read apart if the octets of one of them are UTF-8. -/
theorem decode_enclosed_append {body more : List CodePoint} {octets others : List UInt8}
    {text rest : Text} (hbody : Denotes body octets) (hmore : Denotes more others)
    (hformed : WellFormed octets ∨ WellFormed others) (htext : decode (enclosed body) = .ok text)
    (hrest : decode (enclosed more) = .ok rest) :
    decode (enclosed (body ++ more)) = .ok (text ++ rest) := by
  obtain ⟨_, hdenotes, hlenient⟩ := decode_enclosed_eq_ok_iff.mp htext
  obtain rfl := hdenotes.unique hbody
  obtain ⟨_, hdenotes, hlenientRest⟩ := decode_enclosed_eq_ok_iff.mp hrest
  obtain rfl := hdenotes.unique hmore
  refine decode_enclosed_eq_ok_iff.mpr ⟨_, hbody.append hmore, ?_⟩
  rw [Text.toList_append]
  exact hlenient.append hlenientRest hformed

/-- A literal is read exactly if its body is made up of characters other than the backslash and of
complete escapes, to the lenient reading of the octets that it denotes. It is refused with a fault of
encoding if a surrogate follows such a beginning, and otherwise with a syntax fault. Two bodies that are
read are read together, and to their two texts if the octets of one of them are UTF-8. -/
theorem decode_accepts_bodies (body : List CodePoint) :
    ((∃ text, decode (enclosed body) = .ok text) ↔ ∃ octets, Denotes body octets) ∧
      (∀ text, decode (enclosed body) = .ok text ↔
        ∃ octets, Denotes body octets ∧ Lenient replace octets text.toList) ∧
      ((∃ fault, decode (enclosed body) = .error fault ∧
          (Fault.malformed (.value fault)).className = "UnicodeEncodeError") ↔
        ComesToSurrogate body) ∧
      ((∃ octets, Denotes body octets) ∨ ComesToSurrogate body ∨
        ∃ fault, decode (enclosed body) = .error fault ∧
          (Fault.malformed (.value fault)).className = "PlaybookSyntaxError") ∧
      ∀ more octets others, Denotes body octets → Denotes more others →
        ∃ text rest whole, decode (enclosed body) = .ok text ∧ decode (enclosed more) = .ok rest ∧
          decode (enclosed (body ++ more)) = .ok whole ∧
          (WellFormed octets ∨ WellFormed others → whole = text ++ rest) := by
  have hclass (fault : TextLiteral.Fault) :
      (Fault.malformed (.value fault)).className = "UnicodeEncodeError" ↔ fault.isSyntax = false := by
    cases hsyntax : fault.isSyntax <;> simp [Fault.className, RecordFault.isSyntax, hsyntax]
  refine ⟨exists_decode_enclosed_iff, fun text => decode_enclosed_eq_ok_iff, ?refused, ?ends, ?together⟩
  case refused =>
    simp only [hclass, refused_unencoded_iff]
  case ends =>
    cases hdecode : decode (enclosed body) with
    | ok text => exact .inl (exists_decode_enclosed_iff.mp ⟨text, hdecode⟩)
    | error fault =>
        refine .inr ?_
        cases hsyntax : fault.isSyntax with
        | true => exact .inr ⟨fault, rfl, Record.className_eq_iff.mpr hsyntax⟩
        | false => exact .inl (refused_unencoded_iff.mp ⟨fault, hdecode, hsyntax⟩)
  case together =>
    intro more octets others hbody hmore
    obtain ⟨text, htext⟩ := exists_decode_enclosed_iff.mpr ⟨octets, hbody⟩
    obtain ⟨rest, hrest⟩ := exists_decode_enclosed_iff.mpr ⟨others, hmore⟩
    obtain ⟨whole, hwhole⟩ := exists_decode_enclosed_iff.mpr ⟨_, hbody.append hmore⟩
    refine ⟨text, rest, whole, htext, hrest, hwhole, fun hformed => ?_⟩
    have hapart := decode_enclosed_append hbody hmore hformed htext hrest
    exact Except.ok.inj (hwhole.symm.trans hapart)

/-- A body of a surrogate holds no backslash, but it is refused, and not with a syntax fault. -/
theorem decode_of_surrogate :
    ∃ fault, decode (enclosed [.surrogate 0]) = .error fault ∧
      (Fault.malformed (.value fault)).className = "UnicodeEncodeError" :=
  ⟨⟨.unencodable ⟨0, 0, 1⟩, enclosed [.surrogate 0]⟩, by decide, by decide⟩

/-- Octets that are UTF-8 only together are not read apart. -/
example : decode "\"\\xc3\"" = .ok "\uFFFD" ∧ decode "\"\\xa9\"" = .ok "\uFFFD" ∧
    decode "\"\\xc3\\xa9\"" = .ok "é" :=
  by decide +kernel

end Playbook.TextLiteral
