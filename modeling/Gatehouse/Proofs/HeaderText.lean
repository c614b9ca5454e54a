import Gatehouse.RequestId
import Gatehouse.Grpc.Status

namespace Gatehouse

/-- Characters of a text that a header value reads as: the tab and what is printable in ASCII. -/
def isVisibleChar (c : Char) : Bool := c.toNat < 128 && isVisibleByte c.toNat.toUInt8

def isVisibleText (s : String) : Bool := s.toList.all isVisibleChar

theorem isVisibleByte_eq (b : UInt8) : isVisibleByte b = isVisibleChar (Char.ofNat b.toNat) := by
  have all : ∀ b : UInt8, isVisibleByte b = isVisibleChar (Char.ofNat b.toNat) :=
    Byte.forall_of_forall_lt (by decide +kernel)
  exact all b

theorem encodeChar_of_visible {c : Char} (h : isVisibleChar c = true) :
    Utf8.encodeChar c = [c.toNat.toUInt8] ∧ isVisibleByte c.toNat.toUInt8 = true ∧
      Char.ofNat c.toNat.toUInt8.toNat = c := by
  rw [isVisibleChar, Bool.and_eq_true, decide_eq_true_eq] at h
  have hc : c.toNat.toUInt8.toNat = c.toNat :=
    UInt8.toNat_ofNat_of_lt' (Nat.lt_trans h.1 (by decide))
  refine ⟨?_, h.2, ?_⟩
  · rw [Utf8.encodeChar]
    exact if_pos h.1
  · rw [hc, Char.ofNat_toNat]

theorem encode_of_visible {cs : List Char} (h : cs.all isVisibleChar = true) :
    Utf8.encode cs = cs.map (·.toNat.toUInt8) := by
  induction cs with
  | nil => rfl
  | cons c cs ih =>
    rw [List.all_cons, Bool.and_eq_true] at h
    rw [Utf8.encode_cons, (encodeChar_of_visible h.1).1, ih h.2]
    rfl

theorem textOfBytes_encode {cs : List Char} (h : cs.all isVisibleChar = true) :
    textOfBytes (Utf8.encode cs) = String.ofList cs := by
  have hid (c : Char) (hc : c ∈ cs) : Char.ofNat c.toNat.toUInt8.toNat = c :=
    (encodeChar_of_visible (List.all_eq_true.1 h c hc)).2.2
  rw [encode_of_visible h, textOfBytes, List.map_map]
  exact congrArg String.ofList ((List.map_congr_left hid).trans (List.map_id cs))

/-- A visible text becomes a header value that reads back as the text. -/
theorem exists_value_of_visible {s : String} (h : isVisibleText s = true) :
    ∃ v, HeaderValue.ofText? s = some v ∧ v.text? = some s := by
  have hv : (Utf8.encode s.toList).all isVisibleByte = true := by
    rw [encode_of_visible h, List.all_map, List.all_eq_true]
    exact fun c hc => (encodeChar_of_visible (List.all_eq_true.1 h c hc)).2.1
  have hb : (Utf8.encode s.toList).all isValueByte = true :=
    List.all_eq_true.2 fun b hb =>
      Grpc.isValueByte_of_isVisibleByte (List.all_eq_true.1 hv b hb)
  refine ⟨⟨_, hb⟩, ?_, ?_⟩
  · rw [HeaderValue.ofText?, HeaderValue.ofBytes?, dif_pos hb]
  · rw [HeaderValue.text?, if_pos hv, textOfBytes_encode h, String.ofList_toList]

theorem HeaderValue.text?_eq (v : HeaderValue) :
    v.text? = (some (textOfBytes v.bytes)).filter isVisibleText := by
  have hv : v.bytes.all isVisibleByte = isVisibleText (textOfBytes v.bytes) := by
    rw [isVisibleText, textOfBytes, String.toList_ofList, List.all_map]
    exact congrArg v.bytes.all (funext isVisibleByte_eq)
  rw [text?, hv, Option.filter_some]

theorem visible_of_text? {v : HeaderValue} {s : String} (h : v.text? = some s) :
    isVisibleText s = true := by
  rw [v.text?_eq] at h
  exact (Option.filter_eq_some_iff.1 h).2

theorem toList_textOfBytes {cs : List Char} {bytes : List UInt8}
    (h : (cs.mapM fun c => if c.toNat < 256 then some c.toNat.toUInt8 else none) = some bytes) :
    bytes.map (fun b => Char.ofNat b.toNat) = cs := by
  induction cs generalizing bytes with
  | nil =>
    cases h
    rfl
  | cons c cs ih =>
    rw [List.mapM_cons] at h
    obtain ⟨b, hb, h⟩ := Option.bind_eq_some_iff.1 h
    obtain ⟨bs, hbs, h⟩ := Option.bind_eq_some_iff.1 h
    cases h
    obtain ⟨hc, hb⟩ := Option.ite_none_right_eq_some.1 hb
    have hn : c.toNat.toUInt8.toNat = c.toNat := UInt8.toNat_ofNat_of_lt' hc
    rw [List.map_cons, ih hbs, ← Option.some.inj hb, hn, Char.ofNat_toNat]

theorem textOfBytes_of_bytesOf? {s : String} {bytes : List UInt8} (h : bytesOf? s = some bytes) :
    textOfBytes bytes = s := by
  rw [textOfBytes, toList_textOfBytes h, String.ofList_toList]

namespace Uuid

theorem visible_of_isLowerHex {c : Char} (h : isLowerHex c = true) : isVisibleChar c = true := by
  have all : ∀ n < 128, isLowerHex (Char.ofNat n) = true →
      isVisibleChar (Char.ofNat n) = true := by decide +kernel
  have hc : c.toNat < 128 := by
    simp only [isLowerHex, Bool.or_eq_true, Bool.and_eq_true, decide_eq_true_eq, Char.le_def,
      UInt32.le_iff_toNat_le] at h
    rcases h with h | h
    · exact Nat.lt_of_le_of_lt h.2 (by decide)
    · exact Nat.lt_of_le_of_lt h.2 (by decide)
  have hv := all c.toNat hc
  rw [Char.ofNat_toNat] at hv
  exact hv h

theorem visible_of_isV4 {s : String} (h : isV4 s = true) : isVisibleText s = true := by
  rw [isV4, Bool.and_eq_true, decide_eq_true_eq, List.all_eq_true] at h
  rw [isVisibleText, List.all_eq_true]
  intro c hc
  obtain ⟨i, hi, rfl⟩ := List.mem_iff_getElem.1 hc
  have hchar := h.2 i (List.mem_range.2 (h.1 ▸ hi))
  rw [List.getElem?_eq_getElem hi] at hchar
  dsimp only at hchar
  split at hchar
  · rw [of_decide_eq_true hchar]
    decide
  · split at hchar
    · rw [of_decide_eq_true hchar]
      decide
    · split at hchar
      · have hm := List.contains_iff_mem.1 hchar
        revert hm
        generalize s.toList[i] = c
        simp only [List.mem_cons, List.not_mem_nil, or_false]
        rintro (rfl | rfl | rfl | rfl) <;> decide
      · exact visible_of_isLowerHex hchar

theorem isLowerHex_lower {n : Nat} (h : n < 16) : isLowerHex (Hex.lower n) = true := by
  have all : ∀ m : Fin 16, isLowerHex (Hex.lower m) = true := by decide
  exact all ⟨n, h⟩

theorem lower_variant {n : Nat} (hl : 8 ≤ n) (hu : n < 12) :
    Hex.lower n = '8' ∨ Hex.lower n = '9' ∨ Hex.lower n = 'a' ∨ Hex.lower n = 'b' := by
  have hn : n = 8 ∨ n = 9 ∨ n = 10 ∨ n = 11 := by omega
  rcases hn with rfl | rfl | rfl | rfl <;> decide

theorem isV4_v4 (high low : UInt64) : isV4 (v4 high low) = true := by
  have digit (n : Nat) : isLowerHex (Hex.lower (n % 16)) = true :=
    isLowerHex_lower (Nat.mod_lt n (by decide))
  have version (h : Nat) :
      Hex.lower ((h / 65536 * 65536 + 16384 + h % 4096) / 16 / 16 / 16 % 16) = '4' := by
    rw [show (h / 65536 * 65536 + 16384 + h % 4096) / 16 / 16 / 16 % 16 = 4 by omega]
    decide
  have variant (l : Nat) := lower_variant
    (n := (9223372036854775808 + l % 4611686018427387904) / 16 / 16 / 16 / 16 / 16 / 16 / 16 /
      16 / 16 / 16 / 16 / 16 / 16 / 16 / 16 % 16) (by omega) (by omega)
  simp only [isV4, v4, String.toList_ofList, Hex.fixed, List.nil_append, List.cons_append,
    List.drop, List.take]
  simp [List.range, List.range.loop, digit, version, variant]

end Uuid

end Gatehouse
