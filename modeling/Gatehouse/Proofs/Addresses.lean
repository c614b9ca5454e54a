import Gatehouse.SocketAddress

namespace Gatehouse

namespace Ipv4

theorem octet?_of_read? {cs : List Char} {n : Nat} (h : Decimal.read? cs = some n) (hn : n < 256)
    (hl : cs.length ≤ 3) (hz : ¬ (cs.length > 1 ∧ cs.head? = some '0')) :
    octet? cs = some n.toUInt8 := by
  match cs with
  | [] => cases h
  | [_] | [_, _] | [_, _, _] =>
    rw [octet?, h]
    exact if_pos ⟨hn, hz⟩
  | _ :: _ :: _ :: _ :: cs => exact absurd hl (Nat.not_le.2 (Nat.le_add_left 4 cs.length))

theorem octet?_digits (o : UInt8) : octet? (Decimal.digits o.toNat) = some o := by
  have hlt : o.toNat < 256 := o.toNat_lt
  have hz : ¬ ((Decimal.digits o.toNat).length > 1 ∧
      (Decimal.digits o.toNat).head? = some '0') := by
    rintro ⟨hl, hh⟩
    rcases Nat.eq_zero_or_pos o.toNat with h0 | hpos
    · rw [h0, Decimal.digits] at hl
      exact absurd hl (Nat.lt_irrefl 1)
    · exact Decimal.head?_digits hpos hh
  have hone : (Decimal.digits (o.toNat / 10 / 10)).length = 1 :=
    Decimal.length_digits_of_lt (by omega)
  have hl : (Decimal.digits o.toNat).length ≤ 3 :=
    Decimal.length_digits_le (Decimal.length_digits_le (Nat.le_of_eq hone))
  rw [octet?_of_read? (Decimal.read?_digits _) hlt hl hz]
  exact congrArg some UInt8.ofNat_toNat

theorem not_mem_chars {c : Char} (hd : Decimal.value? c = none) (hc : c ≠ '.') (ip : Ipv4) :
    c ∉ ip.chars := by
  refine Fields.not_mem_join hc fun piece hp => ?_
  obtain ⟨o, _, rfl⟩ := List.mem_map.1 hp
  exact Decimal.not_mem_digits hd o.toNat

theorem ofChars?_chars (ip : Ipv4) : ofChars? ip.chars = some ip := by
  have hsplit : Fields.split '.' ip.chars =
      [ip.a, ip.b, ip.c, ip.d].map fun o => Decimal.digits o.toNat := by
    refine Fields.split_join (List.cons_ne_nil _ _) fun piece hp => ?_
    obtain ⟨o, _, rfl⟩ := List.mem_map.1 hp
    exact Decimal.not_mem_digits (by decide) o.toNat
  rw [ofChars?, hsplit]
  simp only [List.map_cons, List.map_nil, octet?_digits]
  rfl

end Ipv4

namespace Ipv6

theorem group?_digits (g : UInt16) : group? (Hex.digits g.toNat) = some g := by
  have hlt : g.toNat < 65536 := g.toNat_lt
  have hone : (Hex.digits (g.toNat / 16 / 16 / 16)).length = 1 :=
    Hex.length_digits_of_lt (by omega)
  have hlen : (Hex.digits g.toNat).length ≤ 4 :=
    Hex.length_digits_le (Hex.length_digits_le (Hex.length_digits_le (Nat.le_of_eq hone)))
  have hfits : ¬ ((Hex.digits g.toNat).isEmpty ∨ (Hex.digits g.toNat).length > 4) := by
    rw [List.isEmpty_iff]
    exact fun h => h.elim (Hex.digits_ne_nil _) (Nat.not_lt.2 hlen)
  rw [group?, if_neg hfits, Hex.readFrom_digits]
  exact congrArg some UInt16.ofNat_toNat

theorem not_mem_groupChars {c : Char} (hd : Hex.value? c = none) (hc : c ≠ ':')
    (gs : List UInt16) : c ∉ groupChars gs := by
  refine Fields.not_mem_join hc fun piece hp => ?_
  obtain ⟨g, _, rfl⟩ := List.mem_map.1 hp
  exact Hex.not_mem_digits hd g.toNat

theorem groups?_digits (dottedAllowed : Bool) (gs : List UInt16) :
    groups? dottedAllowed (gs.map fun g => Hex.digits g.toNat) = some gs := by
  induction gs with
  | nil => rfl
  | cons g gs ih =>
    cases gs with
    | nil => rw [List.map_cons, List.map_nil, groups?, group?_digits]
    | cons g' gs =>
      rw [List.map_cons] at ih
      rw [List.map_cons, List.map_cons, groups?, group?_digits, ih]
      · rfl
      · exact List.cons_ne_nil _ _

theorem split_groupChars {gs : List UInt16} (h : gs ≠ []) :
    Fields.split ':' (groupChars gs) = gs.map fun g => Hex.digits g.toNat := by
  refine Fields.split_join (fun he => h (List.map_eq_nil_iff.1 he)) fun piece hp => ?_
  obtain ⟨g, _, rfl⟩ := List.mem_map.1 hp
  exact Hex.not_mem_digits (by decide) g.toNat

theorem part?_groupChars (dottedAllowed : Bool) (gs : List UInt16) :
    part? dottedAllowed (groupChars gs) = some gs := by
  cases gs with
  | nil => rfl
  | cons g gs =>
    have hne : groupChars (g :: gs) ≠ [] := Fields.join_ne_nil _ (Hex.digits_ne_nil _)
    have he : ¬ (groupChars (g :: gs)).isEmpty := fun he => hne (List.isEmpty_iff.1 he)
    rw [part?, if_neg he, split_groupChars (List.cons_ne_nil _ _), groups?_digits]

theorem cutDouble?_cons {c : Char} {cs : List Char} (h : c ≠ ':' ∨ cs.head? ≠ some ':') :
    cutDouble? (c :: cs) = (cutDouble? cs).map fun (before, after) => (c :: before, after) := by
  rw [cutDouble?]
  rintro cs' rfl rfl
  exact h.elim (fun h => h rfl) fun h => h rfl

theorem cutDouble?_append {cs : List Char} (h : ':' ∉ cs) (rest : List Char) :
    cutDouble? (cs ++ rest) =
      (cutDouble? rest).map fun (before, after) => (cs ++ before, after) := by
  induction cs with
  | nil => exact (congrFun Option.map_id _).symm
  | cons c cs ih =>
    rw [List.mem_cons, not_or] at h
    rw [List.cons_append, cutDouble?_cons (.inl (Ne.symm h.1)), ih h.2, Option.map_map]
    rfl

/-- Pieces that are not empty hold no double colon between them, and add none to what follows. -/
theorem cutDouble?_join {pieces : List (List Char)} (h : ∀ p ∈ pieces, p ≠ [] ∧ ':' ∉ p)
    (rest : List Char) :
    cutDouble? (Fields.join ':' pieces ++ rest) =
      (cutDouble? rest).map fun (before, after) => (Fields.join ':' pieces ++ before, after) := by
  induction pieces with
  | nil => exact (congrFun Option.map_id _).symm
  | cons p ps ih =>
    have hp := (h p List.mem_cons_self).2
    cases ps with
    | nil => exact cutDouble?_append hp rest
    | cons q qs =>
      have hps := fun r hr => h r (List.mem_cons_of_mem p hr)
      have hhead : (Fields.join ':' (q :: qs) ++ rest).head? ≠ some ':' :=
        Fields.head?_join_append (hps q List.mem_cons_self).1 (hps q List.mem_cons_self).2 _ _
      rw [Fields.join, List.append_assoc, cutDouble?_append hp, List.cons_append,
        cutDouble?_cons (.inr hhead), ih hps, Option.map_map, Option.map_map]
      · refine congrFun (congrArg Option.map (funext fun cut => ?_)) _
        exact Prod.ext (List.append_assoc p (':' :: Fields.join ':' (q :: qs)) cut.1).symm rfl
      · exact List.cons_ne_nil _ _

theorem cutDouble?_groupChars (gs : List UInt16) (rest : List Char) :
    cutDouble? (groupChars gs ++ rest) =
      (cutDouble? rest).map fun (before, after) => (groupChars gs ++ before, after) := by
  refine cutDouble?_join (fun piece hp => ?_) rest
  obtain ⟨g, _, rfl⟩ := List.mem_map.1 hp
  exact ⟨Hex.digits_ne_nil _, Hex.not_mem_digits (by decide) _⟩

theorem zeroRun_spec (gs : List UInt16) :
    zeroRun gs ≤ gs.length ∧ gs.take (zeroRun gs) = List.replicate (zeroRun gs) 0 := by
  fun_induction zeroRun gs with
  | case1 gs ih => exact ⟨Nat.succ_le_succ ih.1, congrArg (List.cons 0) ih.2⟩
  | case2 gs h => exact ⟨Nat.zero_le _, rfl⟩

/-- What is left out of a text are zeros. -/
theorem longestZeroRun_spec (gs : List UInt16) :
    let (start, length) := longestZeroRun gs
    start + length ≤ gs.length ∧
      gs = gs.take start ++ List.replicate length 0 ++ gs.drop (start + length) := by
  induction gs with
  | nil => exact ⟨Nat.le_refl _, rfl⟩
  | cons g gs ih =>
    rw [longestZeroRun]
    dsimp only
    split
    · obtain ⟨hl, ht⟩ := zeroRun_spec (g :: gs)
      refine ⟨(Nat.zero_add _).symm ▸ hl, ?_⟩
      rw [List.take_zero, List.nil_append, ← ht, Nat.zero_add, List.take_append_drop]
    · obtain ⟨hl, he⟩ := ih
      refine ⟨by rw [List.length_cons]; omega, ?_⟩
      rw [Nat.add_right_comm]
      exact congrArg (List.cons g) he

theorem groups_of_mapped? {ip : Ipv6} {v4 : Ipv4} (h : ip.mapped? = some v4) :
    ip.groups = List.replicate 5 0 ++ 0xFFFF :: v4.groups := by
  have bytes (g : UInt16) :
      (g / 256).toUInt8.toUInt16 * 256 + (g % 256).toUInt8.toUInt16 = g := by
    have := g.toNat_lt
    rw [← UInt16.toNat_inj]
    simp only [UInt16.toNat_add, UInt16.toNat_mul, UInt8.toNat_toUInt16, UInt16.toNat_toUInt8,
      UInt16.toNat_div, UInt16.toNat_mod, UInt16.reduceToNat]
    omega
  rw [mapped?] at h
  split at h
  · rename_i g k hg
    cases h
    rw [hg, Ipv4.groups, bytes, bytes]
    rfl
  · cases h

theorem group?_dotted (v4 : Ipv4) : group? v4.chars = none := by
  have hdot : '.' ∈ v4.chars := List.mem_append_right _ List.mem_cons_self
  rw [group?]
  split
  · rfl
  · cases hr : Hex.readFrom 0 v4.chars with
    | none => rfl
    | some n =>
      have hs := Hex.value?_of_readFrom hr hdot
      cases hs

theorem groups?_dotted (v4 : Ipv4) : groups? true [v4.chars] = some v4.groups := by
  rw [groups?, group?_dotted, if_pos rfl, Ipv4.ofChars?_chars]
  rfl

theorem ofGroups?_groups (ip : Ipv6) : ofGroups? ip.groups = some ip := by
  rw [ofGroups?, dif_pos ip.length_groups]

theorem ofChars?_mapped {ip : Ipv6} {v4 : Ipv4} (h : ip.mapped? = some v4) :
    ofChars? ip.chars = some ip := by
  have hchars : ip.chars = ':' :: ':' :: ("ffff".toList ++ ':' :: v4.chars) := by
    rw [chars, h]
    rfl
  have hcut : cutDouble? ip.chars = some ([], "ffff".toList ++ ':' :: v4.chars) := by
    rw [hchars, cutDouble?]
  have hback : part? true ("ffff".toList ++ ':' :: v4.chars) = some (0xFFFF :: v4.groups) := by
    have hcolon : ':' ∉ v4.chars := Ipv4.not_mem_chars (by decide) (by decide) v4
    have hffff : group? "ffff".toList = some 0xFFFF := by decide
    rw [part?, if_neg (by simp), Fields.split_append (by decide), Fields.split_eq_singleton hcolon,
      groups?, hffff, groups?_dotted]
    · rfl
    · exact List.cons_ne_nil _ _
  rw [ofChars?, hcut]
  dsimp only
  rw [hback, ← ofGroups?_groups ip, groups_of_mapped? h]
  rfl

theorem ofChars?_compressed {ip : Ipv6} {front back : List UInt16} {length : Nat}
    (h : ip.groups = front ++ List.replicate length 0 ++ back) (hpos : 0 < length) :
    ofChars? (groupChars front ++ [':', ':'] ++ groupChars back) = some ip := by
  have htotal : front.length + length + back.length = 8 := by
    rw [← ip.length_groups, h, List.length_append, List.length_append, List.length_replicate]
  have hcut : cutDouble? (groupChars front ++ [':', ':'] ++ groupChars back) =
      some (groupChars front, groupChars back) := by
    rw [List.append_assoc, cutDouble?_groupChars]
    exact congrArg (fun before => some (before, groupChars back)) (List.append_nil _)
  have hleft : 8 - (front.length + back.length) = length := by omega
  rw [ofChars?, hcut]
  simp only [part?_groupChars, Option.bind_eq_bind, Option.bind_some]
  rw [if_pos (by omega), hleft, ← h, ofGroups?_groups]

theorem ofChars?_chars (ip : Ipv6) : ofChars? ip.chars = some ip := by
  cases hm : ip.mapped? with
  | some v4 => exact ofChars?_mapped hm
  | none =>
    have hspec := longestZeroRun_spec ip.groups
    rw [chars, hm]
    dsimp only at hspec ⊢
    split
    · rename_i hlong
      exact ofChars?_compressed hspec.2 (Nat.lt_trans Nat.zero_lt_one hlong)
    · have hne : ip.groups ≠ [] := List.ne_nil_of_length_eq_add_one ip.length_groups
      have hcut : cutDouble? (groupChars ip.groups) = none := by
        have := cutDouble?_groupChars ip.groups []
        rwa [List.append_nil] at this
      rw [ofChars?, hcut]
      dsimp only
      rw [split_groupChars hne, groups?_digits]
      exact ofGroups?_groups ip

theorem not_mem_chars {c : Char} (hd : Decimal.value? c = none) (hx : Hex.value? c = none)
    (hdot : c ≠ '.') (hcolon : c ≠ ':') (ip : Ipv6) : c ∉ ip.chars := by
  have hgroups := not_mem_groupChars hx hcolon
  rw [chars]
  split
  · rename_i v4 _
    have hf : c ≠ 'f' := by
      rintro rfl
      cases hx
    have hprefix : c ∉ "::ffff:".toList := by simp [hcolon, hf]
    exact fun h => (List.mem_append.1 h).elim hprefix (Ipv4.not_mem_chars hd hdot v4)
  · dsimp only
    split
    · have hdouble : c ∉ [':', ':'] := by simp [hcolon]
      refine fun h => (List.mem_append.1 h).elim (fun h => ?_) (hgroups _)
      exact (List.mem_append.1 h).elim (hgroups _) hdouble
    · exact hgroups _

end Ipv6

namespace SocketAddress

theorem port?_digits (port : UInt16) : port? (Decimal.digits port.toNat) = some port := by
  simp only [port?, Decimal.read?_digits, Option.bind_eq_bind, Option.bind_some]
  rw [if_pos port.toNat_lt]
  exact congrArg some UInt16.ofNat_toNat

theorem scope?_digits (scope : UInt32) : scope? (Decimal.digits scope.toNat) = some scope := by
  simp only [scope?, Decimal.read?_digits, Option.bind_eq_bind, Option.bind_some]
  rw [if_pos scope.toNat_lt]
  exact congrArg some UInt32.ofNat_toNat

theorem scoped?_chars (ip : Ipv6) (scope : UInt32) :
    scoped? (ip.chars ++ if scope = 0 then [] else '%' :: Decimal.digits scope.toNat) =
      some (ip, scope) := by
  have hmem : '%' ∉ ip.chars :=
    ip.not_mem_chars (by decide) (by decide) (by decide) (by decide)
  split
  · rename_i h0
    rw [List.append_nil, scoped?, Fields.cut?_eq_none hmem, h0]
    dsimp only
    rw [Ipv6.ofChars?_chars]
    rfl
  · rw [scoped?, Fields.cut?_append hmem]
    dsimp only
    rw [Ipv6.ofChars?_chars, scope?_digits]
    rfl

theorem ofChars?_of_head {cs : List Char} (h : cs.head? ≠ some '[') :
    ofChars? cs = (Fields.cut? ':' cs).bind fun (ip, port) =>
      (Ipv4.ofChars? ip).bind fun ip => (port? port).bind fun port => some (.v4 ip port) := by
  rw [ofChars?]
  · rfl
  · rintro cs' rfl
    exact h rfl

theorem ofChars?_of_brackets {inside : List Char} (h : ']' ∉ inside) (port : List Char) :
    ofChars? ('[' :: (inside ++ ']' :: ':' :: port)) =
      (scoped? inside).bind fun (ip, scope) =>
        (port? port).bind fun port => some (.v6 ip port scope) := by
  rw [ofChars?, Fields.cut?_append h]
  rfl

theorem ofChars?_chars (a : SocketAddress) : ofChars? a.chars = some a := by
  cases a with
  | v4 ip port =>
    have hcolon : ':' ∉ ip.chars := ip.not_mem_chars (by decide) (by decide)
    have hhead : (ip.chars ++ ':' :: Decimal.digits port.toNat).head? ≠ some '[' := by
      intro he
      have hopen : '[' ∈ ip.chars ++ ':' :: Decimal.digits port.toNat := List.mem_of_head? he
      rw [List.mem_append, List.mem_cons] at hopen
      rcases hopen with h | h | h
      · exact ip.not_mem_chars (by decide) (by decide) h
      · cases h
      · exact Decimal.not_mem_digits (by decide) _ h
    rw [chars, ofChars?_of_head hhead, Fields.cut?_append hcolon]
    simp only [Option.bind_some, Ipv4.ofChars?_chars, port?_digits]
  | v6 ip port scope =>
    have hmem : ']' ∉ ip.chars ++ if scope = 0 then [] else '%' :: Decimal.digits scope.toNat := by
      have hscope : ']' ∉ if scope = 0 then [] else '%' :: Decimal.digits scope.toNat := by
        split
        · exact List.not_mem_nil
        · rw [List.mem_cons, not_or]
          exact ⟨by decide, Decimal.not_mem_digits (by decide) _⟩
      refine fun h => (List.mem_append.1 h).elim ?_ hscope
      exact ip.not_mem_chars (by decide) (by decide) (by decide) (by decide)
    rw [chars, List.cons_append, List.cons_append, ofChars?_of_brackets hmem, scoped?_chars]
    simp only [Option.bind_some, port?_digits]

/-- Every address is read back from its canonical text. -/
@[simp] theorem ofText?_text (a : SocketAddress) : ofText? a.text = some a := by
  rw [ofText?, text, String.toList_ofList, ofChars?_chars]

theorem eq_of_text_eq {a b : SocketAddress} (h : a.text = b.text) : a = b := by
  have hr := ofText?_text b
  rw [← h, ofText?_text] at hr
  exact Option.some.inj hr

end SocketAddress

end Gatehouse
