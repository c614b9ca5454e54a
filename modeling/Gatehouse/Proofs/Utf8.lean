import Gatehouse.Text.Utf8

namespace Gatehouse.Utf8

theorem encodeChar_of_lt_80 {c : Char} (h : c.toNat < 0x80) : encodeChar c = [c.toNat.toUInt8] := by
  simp only [encodeChar, if_pos h]

theorem encodeChar_of_lt_800 {c : Char} (hl : 0x80 ≤ c.toNat) (h : c.toNat < 0x800) :
    encodeChar c = [(0xC0 + c.toNat / 0x40).toUInt8, (0x80 + c.toNat % 0x40).toUInt8] := by
  simp only [encodeChar, if_neg (Nat.not_lt.2 hl), if_pos h]

theorem encodeChar_of_lt_10000 {c : Char} (hl : 0x800 ≤ c.toNat) (h : c.toNat < 0x10000) :
    encodeChar c = [(0xE0 + c.toNat / 0x1000).toUInt8, (0x80 + c.toNat / 0x40 % 0x40).toUInt8,
      (0x80 + c.toNat % 0x40).toUInt8] := by
  have h0 : ¬ c.toNat < 0x80 := by omega
  simp only [encodeChar, if_neg h0, if_neg (Nat.not_lt.2 hl), if_pos h]

theorem encodeChar_of_ge_10000 {c : Char} (hl : 0x10000 ≤ c.toNat) :
    encodeChar c = [(0xF0 + c.toNat / 0x40000).toUInt8, (0x80 + c.toNat / 0x1000 % 0x40).toUInt8,
      (0x80 + c.toNat / 0x40 % 0x40).toUInt8, (0x80 + c.toNat % 0x40).toUInt8] := by
  have h0 : ¬ c.toNat < 0x80 := by omega
  have h1 : ¬ c.toNat < 0x800 := by omega
  simp only [encodeChar, if_neg h0, if_neg h1, if_neg (Nat.not_lt.2 hl)]

theorem lengths (c : Char) : c.toNat < 0x80 ∨ 0x80 ≤ c.toNat ∧ c.toNat < 0x800 ∨
    0x800 ≤ c.toNat ∧ c.toNat < 0x10000 ∧ (c.toNat < 0xD800 ∨ 0xDFFF < c.toNat) ∨
    0x10000 ≤ c.toNat ∧ c.toNat < 0x110000 := by
  have hv : c.toNat < 0xD800 ∨ 0xDFFF < c.toNat ∧ c.toNat < 0x110000 := c.valid
  omega

theorem encodeChar_eq (c : Char) : encodeChar c = String.utf8EncodeChar c := by
  have hn : c.val.toNat = c.toNat := rfl
  rcases lengths c with h | ⟨hl, h⟩ | ⟨hl, h, _⟩ | ⟨hl, h⟩
  · rw [encodeChar_of_lt_80 h]
    simp only [String.utf8EncodeChar, hn, if_pos (Nat.le_of_lt_succ h)]
  · have h0 : ¬ c.toNat ≤ 127 := by omega
    have hd : 0xC0 + c.toNat / 0x40 = c.toNat / 64 % 32 + 192 := by omega
    have hc : 0x80 + c.toNat % 0x40 = c.toNat % 64 + 128 := by omega
    rw [encodeChar_of_lt_800 hl h, hd, hc]
    simp only [String.utf8EncodeChar, hn, if_neg h0, if_pos (Nat.le_of_lt_succ h)]
  · have h0 : ¬ c.toNat ≤ 127 := by omega
    have h1 : ¬ c.toNat ≤ 2047 := by omega
    have hd : 0xE0 + c.toNat / 0x1000 = c.toNat / 4096 % 16 + 224 := by omega
    have hc : 0x80 + c.toNat / 0x40 % 0x40 = c.toNat / 64 % 64 + 128 := by omega
    have hb : 0x80 + c.toNat % 0x40 = c.toNat % 64 + 128 := by omega
    rw [encodeChar_of_lt_10000 hl h, hd, hc, hb]
    simp only [String.utf8EncodeChar, hn, if_neg h0, if_neg h1, if_pos (Nat.le_of_lt_succ h)]
  · have h0 : ¬ c.toNat ≤ 127 := by omega
    have h1 : ¬ c.toNat ≤ 2047 := by omega
    have h2 : ¬ c.toNat ≤ 65535 := by omega
    have he : 0xF0 + c.toNat / 0x40000 = c.toNat / 262144 % 8 + 240 := by omega
    have hd : 0x80 + c.toNat / 0x1000 % 0x40 = c.toNat / 4096 % 64 + 128 := by omega
    have hc : 0x80 + c.toNat / 0x40 % 0x40 = c.toNat / 64 % 64 + 128 := by omega
    have hb : 0x80 + c.toNat % 0x40 = c.toNat % 64 + 128 := by omega
    rw [encodeChar_of_ge_10000 hl, he, hd, hc, hb]
    simp only [String.utf8EncodeChar, hn, if_neg h0, if_neg h1, if_neg h2]

theorem encode_toList (s : String) : encode s.toList = s.toUTF8.data.toList := by
  rw [String.toUTF8, ← String.utf8Encode_toList, List.utf8Encode, List.toList_data_toByteArray,
    encode, funext encodeChar_eq]

/-- What a lead byte begins is in its last bits. The first and the last character of a kind leave
less room for the byte after them. -/
theorem ofLead?_two {n : Nat} (hl : 2 ≤ n) (h : n < 32) :
    Partial.ofLead? (0xC0 + n) = some ⟨n, 1, 0x80, 0xBF, 1⟩ := by
  have hr : 0xC2 ≤ 0xC0 + n ∧ 0xC0 + n ≤ 0xDF := by omega
  rw [Partial.ofLead?, if_pos hr, Nat.add_sub_cancel_left]

theorem ofLead?_three {n : Nat} (h : n < 16) :
    Partial.ofLead? (0xE0 + n) =
      some ⟨n, 2, if n = 0 then 0xA0 else 0x80, if n = 13 then 0x9F else 0xBF, 1⟩ := by
  by_cases h0 : n = 0
  · subst h0
    rfl
  by_cases h13 : n = 13
  · subst h13
    rfl
  have ht : ¬(0xC2 ≤ 0xE0 + n ∧ 0xE0 + n ≤ 0xDF) := by omega
  have hf : ¬0xE0 + n = 0xE0 := by omega
  have hl : ¬0xE0 + n = 0xED := by omega
  have hr : 0xE1 ≤ 0xE0 + n ∧ 0xE0 + n ≤ 0xEF := by omega
  rw [Partial.ofLead?, if_neg ht, if_neg hf, if_neg hl, if_pos hr, if_neg h0, if_neg h13,
    Nat.add_sub_cancel_left]

theorem ofLead?_four {n : Nat} (h : n ≤ 4) :
    Partial.ofLead? (0xF0 + n) =
      some ⟨n, 3, if n = 0 then 0x90 else 0x80, if n = 4 then 0x8F else 0xBF, 1⟩ := by
  have hn : n = 0 ∨ n = 1 ∨ n = 2 ∨ n = 3 ∨ n = 4 := by omega
  rcases hn with rfl | rfl | rfl | rfl | rfl <;> rfl

theorem exists_of_ofLead? {b : Nat} {p : Partial} (h : Partial.ofLead? b = some p) :
    (∃ n, 2 ≤ n ∧ n < 32 ∧ b = 0xC0 + n) ∨ (∃ n < 16, b = 0xE0 + n) ∨ ∃ n ≤ 4, b = 0xF0 + n := by
  have hb : 0xC2 ≤ b ∧ b ≤ 0xDF ∨ 0xE0 ≤ b ∧ b ≤ 0xEF ∨ 0xF0 ≤ b ∧ b ≤ 0xF4 := by
    rw [Partial.ofLead?] at h
    repeat' split at h
    all_goals first | omega | cases h
  rcases hb with hb | hb | hb
  · exact .inl ⟨b - 0xC0, by omega⟩
  · exact .inr (.inl ⟨b - 0xE0, by omega⟩)
  · exact .inr (.inr ⟨b - 0xF0, by omega⟩)

variable {start : Nat} {bs : List UInt8} {value owed low high seen : Nat}

theorem scan_lead {b : Nat} {p : Partial} (hl : 0x80 ≤ b) (h : b < 256) (hp : Partial.ofLead? b = some p) :
    scan start none (b.toUInt8 :: bs) = scan start (some p) bs := by
  rw [scan, Byte.toNat_toUInt8 h, if_neg (Nat.not_lt.2 hl)]
  simp only [hp]

theorem scan_next {v : Nat} (h : v < 0x40) (hl : low ≤ 0x80 + v) (hh : 0x80 + v ≤ high) :
    scan start (some ⟨value, owed + 2, low, high, seen⟩) ((0x80 + v).toUInt8 :: bs) =
      scan start (some ⟨value * 0x40 + v, owed + 1, 0x80, 0xBF, seen + 1⟩) bs := by
  have ho : ¬ owed + 2 ≤ 1 := by omega
  rw [scan, Byte.toNat_toUInt8 (by omega), if_pos ⟨hl, hh⟩, if_neg ho, Nat.add_sub_cancel_left]
  rfl

theorem scan_last {v : Nat} (h : v < 0x40) (hl : low ≤ 0x80 + v) (hh : 0x80 + v ≤ high) :
    scan start (some ⟨value, 1, low, high, seen⟩) ((0x80 + v).toUInt8 :: bs) =
      (scan (start + seen + 1) none bs).map (Char.ofNat (value * 0x40 + v) :: ·) := by
  rw [scan, Byte.toNat_toUInt8 (by omega), if_pos ⟨hl, hh⟩, if_pos (Nat.le_refl 1),
    Nat.add_sub_cancel_left]

theorem scan_encodeChar (start : Nat) (c : Char) (bs : List UInt8) :
    ∃ next, scan start none (encodeChar c ++ bs) = (scan next none bs).map (c :: ·) := by
  rcases lengths c with h | ⟨hl, h⟩ | ⟨hl, h, hs⟩ | ⟨hl, h⟩
  · refine ⟨start + 1, ?_⟩
    rw [encodeChar_of_lt_80 h, List.singleton_append, scan, Byte.toNat_toUInt8 (by omega), if_pos h,
      Char.ofNat_toNat]
  · refine ⟨start + 1 + 1, ?_⟩
    have hv : c.toNat / 0x40 * 0x40 + c.toNat % 0x40 = c.toNat := by omega
    rw [encodeChar_of_lt_800 hl h, List.cons_append, List.singleton_append,
      scan_lead (by omega) (by omega) (ofLead?_two (n := c.toNat / 0x40) (by omega) (by omega)),
      scan_last (by omega) (by omega) (by omega), hv, Char.ofNat_toNat]
  · refine ⟨start + 2 + 1, ?_⟩
    have hv : (c.toNat / 0x1000 * 0x40 + c.toNat / 0x40 % 0x40) * 0x40 + c.toNat % 0x40 =
        c.toNat := by omega
    rw [encodeChar_of_lt_10000 hl h, List.cons_append, List.cons_append, List.singleton_append,
      scan_lead (by omega) (by omega) (ofLead?_three (n := c.toNat / 0x1000) (by omega)),
      scan_next (by omega) (by split <;> omega) (by split <;> omega),
      scan_last (by omega) (by omega) (by omega), hv, Char.ofNat_toNat]
  · refine ⟨start + 3 + 1, ?_⟩
    have hv : ((c.toNat / 0x40000 * 0x40 + c.toNat / 0x1000 % 0x40) * 0x40 +
        c.toNat / 0x40 % 0x40) * 0x40 + c.toNat % 0x40 = c.toNat := by omega
    rw [encodeChar_of_ge_10000 hl, List.cons_append, List.cons_append, List.cons_append,
      List.singleton_append,
      scan_lead (by omega) (by omega) (ofLead?_four (n := c.toNat / 0x40000) (by omega)),
      scan_next (by omega) (by split <;> omega) (by split <;> omega),
      scan_next (by omega) (by omega) (by omega),
      scan_last (by omega) (by omega) (by omega), hv, Char.ofNat_toNat]

theorem scan_encode (start : Nat) (cs : List Char) : scan start none (encode cs) = .ok cs := by
  induction cs generalizing start with
  | nil => rfl
  | cons c cs ih =>
    obtain ⟨next, hn⟩ := scan_encodeChar start c (encode cs)
    rw [encode_cons, hn, ih]
    rfl

theorem toNat_ofNat_of_valid {v : Nat} (h : v < 0xD800 ∨ 0xDFFF < v ∧ v < 0x110000) :
    (Char.ofNat v).toNat = v := by
  rw [Char.ofNat, dif_pos h]
  rfl

theorem encodeChar_ofNat_two {n v : Nat} (hl : 2 ≤ n) (h : n < 32) (hv : v < 0x40) :
    encodeChar (Char.ofNat (n * 0x40 + v)) = [(0xC0 + n).toUInt8, (0x80 + v).toUInt8] := by
  have hc := toNat_ofNat_of_valid (v := n * 0x40 + v) (by omega)
  have hn : (n * 0x40 + v) / 0x40 = n := by omega
  have hr : (n * 0x40 + v) % 0x40 = v := by omega
  rw [encodeChar_of_lt_800 (by omega) (by omega), hc, hn, hr]

theorem encodeChar_ofNat_three {n v w : Nat} (hv : v < 0x40) (hw : w < 0x40) (hn : n < 16)
    (hl : n = 0 → 0x20 ≤ v) (hs : n = 13 → v < 0x20) :
    encodeChar (Char.ofNat ((n * 0x40 + v) * 0x40 + w)) =
      [(0xE0 + n).toUInt8, (0x80 + v).toUInt8, (0x80 + w).toUInt8] := by
  have hc := toNat_ofNat_of_valid (v := (n * 0x40 + v) * 0x40 + w) (by omega)
  have h1 : ((n * 0x40 + v) * 0x40 + w) / 0x1000 = n := by omega
  have h2 : ((n * 0x40 + v) * 0x40 + w) / 0x40 % 0x40 = v := by omega
  have h3 : ((n * 0x40 + v) * 0x40 + w) % 0x40 = w := by omega
  rw [encodeChar_of_lt_10000 (by omega) (by omega), hc, h1, h2, h3]

theorem encodeChar_ofNat_four {n v w x : Nat} (hv : v < 0x40) (hw : w < 0x40) (hx : x < 0x40)
    (hn : n ≤ 4) (hl : n = 0 → 0x10 ≤ v) (hh : n = 4 → v < 0x10) :
    encodeChar (Char.ofNat (((n * 0x40 + v) * 0x40 + w) * 0x40 + x)) =
      [(0xF0 + n).toUInt8, (0x80 + v).toUInt8, (0x80 + w).toUInt8, (0x80 + x).toUInt8] := by
  have hc := toNat_ofNat_of_valid (v := ((n * 0x40 + v) * 0x40 + w) * 0x40 + x) (by omega)
  have h1 : (((n * 0x40 + v) * 0x40 + w) * 0x40 + x) / 0x40000 = n := by omega
  have h2 : (((n * 0x40 + v) * 0x40 + w) * 0x40 + x) / 0x1000 % 0x40 = v := by omega
  have h3 : (((n * 0x40 + v) * 0x40 + w) * 0x40 + x) / 0x40 % 0x40 = w := by omega
  have h4 : (((n * 0x40 + v) * 0x40 + w) * 0x40 + x) % 0x40 = x := by omega
  rw [encodeChar_of_ge_10000 (by omega), hc, h1, h2, h3, h4]

theorem exists_of_map_ok {result : Except Fault (List Char)} {c : Char} {cs : List Char}
    (h : result.map (c :: ·) = .ok cs) : ∃ rest, cs = c :: rest ∧ result = .ok rest := by
  cases result with
  | error fault => cases h
  | ok rest =>
    cases h
    exact ⟨rest, rfl, rfl⟩

variable {cs : List Char} {bytes : List UInt8}

theorem exists_byte_of_scan (hl : 0x80 ≤ low) (hh : high ≤ 0xBF)
    (h : scan start (some ⟨value, owed, low, high, seen⟩) bytes = .ok cs) :
    ∃ v bs, v < 0x40 ∧ low ≤ 0x80 + v ∧ 0x80 + v ≤ high ∧ bytes = (0x80 + v).toUInt8 :: bs := by
  cases bytes with
  | nil => cases h
  | cons b bs =>
    rw [scan] at h
    split at h
    · rename_i hb
      simp only at hb
      have hv : b.toNat = 0x80 + (b.toNat - 0x80) := by omega
      exact ⟨b.toNat - 0x80, bs, by omega, by omega, by omega,
        congrArg (· :: bs) (Byte.eq_toUInt8_of_toNat hv)⟩
    · cases h

theorem exists_next_of_scan (hl : 0x80 ≤ low) (hh : high ≤ 0xBF)
    (h : scan start (some ⟨value, owed + 2, low, high, seen⟩) bytes = .ok cs) :
    ∃ v bs, v < 0x40 ∧ low ≤ 0x80 + v ∧ 0x80 + v ≤ high ∧ bytes = (0x80 + v).toUInt8 :: bs ∧
      scan start (some ⟨value * 0x40 + v, owed + 1, 0x80, 0xBF, seen + 1⟩) bs = .ok cs := by
  obtain ⟨v, bs, hv, hlv, hvh, rfl⟩ := exists_byte_of_scan hl hh h
  rw [scan_next hv hlv hvh] at h
  exact ⟨v, bs, hv, hlv, hvh, rfl, h⟩

theorem exists_last_of_scan (hl : 0x80 ≤ low) (hh : high ≤ 0xBF)
    (h : scan start (some ⟨value, 1, low, high, seen⟩) bytes = .ok cs) :
    ∃ v bs cs', v < 0x40 ∧ bytes = (0x80 + v).toUInt8 :: bs ∧
      cs = Char.ofNat (value * 0x40 + v) :: cs' ∧
      scan (start + seen + 1) none bs = .ok cs' := by
  obtain ⟨v, bs, hv, hlv, hvh, rfl⟩ := exists_byte_of_scan hl hh h
  rw [scan_last hv hlv hvh] at h
  obtain ⟨cs', hc, h⟩ := exists_of_map_ok h
  exact ⟨v, bs, cs', hv, rfl, hc, h⟩

/-- A text that has bytes begins with the bytes of a character, and what follows them is a text. -/
theorem exists_char_of_scan {b : UInt8} (h : scan start none (b :: bs) = .ok cs) :
    ∃ c rest next cs', b :: bs = encodeChar c ++ rest ∧ cs = c :: cs' ∧
      scan next none rest = .ok cs' := by
  by_cases hb : b.toNat < 0x80
  · rw [scan, if_pos hb] at h
    obtain ⟨cs', hcs, hr⟩ := exists_of_map_ok h
    have hc := toNat_ofNat_of_valid (v := b.toNat) (by omega)
    refine ⟨Char.ofNat b.toNat, bs, _, cs', ?_, hcs, hr⟩
    rw [encodeChar_of_lt_80 (hc.symm ▸ hb), hc, Byte.toUInt8_toNat, List.singleton_append]
  cases hp : Partial.ofLead? b.toNat with
  | none =>
    rw [scan, if_neg hb] at h
    simp only [hp] at h
    cases h
  | some p =>
    rw [scan, if_neg hb] at h
    simp only [hp] at h
    -- the lead byte tells how many bytes follow; each adds six bits
    rcases exists_of_ofLead? hp with ⟨n, hn, hn', he⟩ | ⟨n, hn, he⟩ | ⟨n, hn, he⟩
    · rw [he, ofLead?_two hn hn'] at hp
      cases hp
      obtain ⟨v, rest, cs', hv, rfl, rfl, hr⟩ :=
        exists_last_of_scan (Nat.le_refl _) (Nat.le_refl _) h
      refine ⟨_, rest, _, cs', ?_, rfl, hr⟩
      rw [encodeChar_ofNat_two hn hn' hv, Byte.eq_toUInt8_of_toNat he]
      rfl
    · rw [he, ofLead?_three hn] at hp
      cases hp
      obtain ⟨v, tail, hv, hl, hh, rfl, h'⟩ :=
        exists_next_of_scan (by split <;> omega) (by split <;> omega) h
      obtain ⟨w, rest, cs', hw, rfl, rfl, hr⟩ :=
        exists_last_of_scan (Nat.le_refl _) (Nat.le_refl _) h'
      refine ⟨_, rest, _, cs', ?_, rfl, hr⟩
      rw [encodeChar_ofNat_three hv hw hn (by split at hl <;> omega) (by split at hh <;> omega),
        Byte.eq_toUInt8_of_toNat he]
      rfl
    · rw [he, ofLead?_four hn] at hp
      cases hp
      obtain ⟨v, tail, hv, hl, hh, rfl, h'⟩ :=
        exists_next_of_scan (by split <;> omega) (by split <;> omega) h
      obtain ⟨w, last, hw, _, _, rfl, h''⟩ :=
        exists_next_of_scan (Nat.le_refl _) (Nat.le_refl _) h'
      obtain ⟨x, rest, cs', hx, rfl, rfl, hr⟩ :=
        exists_last_of_scan (Nat.le_refl _) (Nat.le_refl _) h''
      refine ⟨_, rest, _, cs', ?_, rfl, hr⟩
      rw [encodeChar_ofNat_four hv hw hx hn (by split at hl <;> omega)
        (by split at hh <;> omega), Byte.eq_toUInt8_of_toNat he]
      rfl

theorem encodeChar_ne_nil (c : Char) : encodeChar c ≠ [] := by
  rcases lengths c with h | ⟨hl, h⟩ | ⟨hl, h, _⟩ | ⟨hl, h⟩
  · rw [encodeChar_of_lt_80 h]
    exact List.cons_ne_nil _ _
  · rw [encodeChar_of_lt_800 hl h]
    exact List.cons_ne_nil _ _
  · rw [encodeChar_of_lt_10000 hl h]
    exact List.cons_ne_nil _ _
  · rw [encodeChar_of_ge_10000 hl]
    exact List.cons_ne_nil _ _

theorem encode_of_scan (h : scan start none bytes = .ok cs) : bytes = encode cs := by
  induction hn : bytes.length using Nat.strongRecOn generalizing start bytes cs with
  | ind n ih =>
    cases bytes with
    | nil =>
      cases h
      rfl
    | cons b bs =>
      obtain ⟨c, rest, next, cs', he, rfl, hr⟩ := exists_char_of_scan h
      have hlen := congrArg List.length he
      rw [List.length_append] at hlen
      have hpos := List.length_pos_iff.2 (encodeChar_ne_nil c)
      rw [he, encode_cons, ih rest.length (by omega) hr rfl]

/-- Bytes read as a text exactly if the text is written as these bytes. -/
theorem decode_eq_ok_iff : decode bytes = .ok cs ↔ bytes = encode cs := by
  constructor
  · exact encode_of_scan
  · intro h
    rw [h]
    exact scan_encode 0 cs

theorem cons_lt_cons {m n : Nat} (hm : m < 256) (hn : n < 256) {xs ys : List UInt8} :
    m.toUInt8 :: xs < n.toUInt8 :: ys ↔ m < n ∨ m = n ∧ xs < ys := by
  have toNat {n : Nat} (h : n < 256) : n.toUInt8.toNat = n := Nat.mod_eq_of_lt h
  rw [List.cons_lt_cons_iff, UInt8.lt_iff_toNat_lt, ← UInt8.toNat_inj, toNat hm, toNat hn]

theorem exists_lead (c : Char) : ∃ n rest, encodeChar c = n.toUInt8 :: rest ∧
    (c.toNat < 0x80 ∧ n = c.toNat ∨
      0x80 ≤ c.toNat ∧ c.toNat < 0x800 ∧ n = 0xC0 + c.toNat / 0x40 ∨
      0x800 ≤ c.toNat ∧ c.toNat < 0x10000 ∧ n = 0xE0 + c.toNat / 0x1000 ∨
      0x10000 ≤ c.toNat ∧ c.toNat < 0x110000 ∧ n = 0xF0 + c.toNat / 0x40000) := by
  rcases lengths c with h | ⟨hl, h⟩ | ⟨hl, h, _⟩ | ⟨hl, h⟩
  · exact ⟨_, _, encodeChar_of_lt_80 h, .inl ⟨h, rfl⟩⟩
  · exact ⟨_, _, encodeChar_of_lt_800 hl h, .inr (.inl ⟨hl, h, rfl⟩)⟩
  · exact ⟨_, _, encodeChar_of_lt_10000 hl h, .inr (.inr (.inl ⟨hl, h, rfl⟩))⟩
  · exact ⟨_, _, encodeChar_of_ge_10000 hl, .inr (.inr (.inr ⟨hl, h, rfl⟩))⟩

/-- Bytes are in the order of the characters that they encode. -/
theorem encodeChar_append_lt {c d : Char} (h : c < d) (xs ys : List UInt8) :
    encodeChar c ++ xs < encodeChar d ++ ys := by
  have hn : c.toNat < d.toNat := h
  obtain ⟨m, cs, hcs, hm⟩ := exists_lead c
  obtain ⟨n, ds, hds, hn⟩ := exists_lead d
  by_cases hl : m < n
  · rw [hcs, hds, List.cons_append, List.cons_append, cons_lt_cons (by omega) (by omega)]
    exact .inl hl
  · -- with the same first byte there are as many bytes after it
    rcases hm with ⟨hc, _⟩ | ⟨hcl, hc, _⟩ | ⟨hcl, hc, _⟩ | ⟨hcl, hc, _⟩
    · omega
    · rw [encodeChar_of_lt_800 hcl hc, encodeChar_of_lt_800 (by omega) (by omega)]
      simp (disch := omega) only [List.cons_append, List.nil_append, cons_lt_cons]
      omega
    · rw [encodeChar_of_lt_10000 hcl hc, encodeChar_of_lt_10000 (by omega) (by omega)]
      simp (disch := omega) only [List.cons_append, List.nil_append, cons_lt_cons]
      omega
    · rw [encodeChar_of_ge_10000 hcl, encodeChar_of_ge_10000 (by omega)]
      simp (disch := omega) only [List.cons_append, List.nil_append, cons_lt_cons]
      omega

theorem encode_lt {cs ds : List Char} (h : cs < ds) : encode cs < encode ds := by
  induction ds generalizing cs with
  | nil => exact absurd h (List.not_lt_nil cs)
  | cons d ds ih =>
    cases cs with
    | nil =>
      obtain ⟨n, rest, hd, -⟩ := exists_lead d
      rw [encode_nil, encode_cons, hd, List.cons_append]
      exact List.nil_lt_cons _ _
    | cons c cs =>
      rw [encode_cons, encode_cons]
      rcases List.cons_lt_cons_iff.1 h with hc | ⟨rfl, hs⟩
      · exact encodeChar_append_lt hc _ _
      · exact List.append_left_lt (ih hs)

theorem encode_toList_lt_iff {s t : String} : encode s.toList < encode t.toList ↔ s < t := by
  constructor
  · intro h
    refine Classical.byContradiction fun hn => ?_
    by_cases he : s = t
    · exact List.lt_irrefl _ (he ▸ h)
    · have hl : t < s := String.not_le.1 fun hs => he (String.le_antisymm hs (String.not_lt.1 hn))
      exact List.lt_asymm h (encode_lt hl)
  · exact encode_lt

theorem length_encode_toList (s : String) : (encode s.toList).length = s.utf8ByteSize := by
  rw [encode_toList]
  rfl

end Gatehouse.Utf8
