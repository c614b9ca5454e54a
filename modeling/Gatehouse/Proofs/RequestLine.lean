import Gatehouse.Protocol

namespace Gatehouse

def requestLine (target : String) (query : Option String) : List Char :=
  target.toList ++ query.elim [] fun query => '?' :: query.toList

/-- A text without the question mark that ends it, if there is none before. -/
def dropBareMark (cs : List Char) : List Char :=
  if cs.getLast? = some '?' ∧ '?' ∉ cs.dropLast then cs.dropLast else cs

variable {cs : List Char} {target : String}

theorem dropBareMark_snoc (h : '?' ∉ cs) : dropBareMark (cs ++ ['?']) = cs := by
  have hlast : (cs ++ ['?']).getLast? = some '?' := List.getLast?_concat
  have hfront : (cs ++ ['?']).dropLast = cs := List.dropLast_concat
  rw [dropBareMark, if_pos ⟨hlast, hfront.symm ▸ h⟩, hfront]

theorem dropBareMark_of_not_mem (h : '?' ∉ cs) : dropBareMark cs = cs := by
  apply if_neg
  intro hm
  exact h (List.mem_of_getLast? hm.1)

/-- A question mark stays that something follows, and so does any other behind it. -/
theorem dropBareMark_append {query : List Char} (h : query ≠ []) (cs : List Char) :
    dropBareMark (cs ++ '?' :: query) = cs ++ '?' :: query := by
  apply if_neg
  intro hm
  apply hm.2
  rw [List.dropLast_append_of_ne_nil (List.cons_ne_nil _ _), List.dropLast_cons_of_ne_nil h]
  exact List.mem_append_right _ List.mem_cons_self

theorem requestLine_filter (h : '?' ∉ target.toList) (query : Option String) :
    requestLine target (query.filter (· ≠ "")) = dropBareMark (requestLine target query) := by
  cases query with
  | none =>
    have hline : requestLine target none = target.toList := List.append_nil _
    rw [Option.filter_none, hline, dropBareMark_of_not_mem h]
  | some query =>
    by_cases hq : query = ""
    · subst hq
      have hline : requestLine target (some "") = target.toList ++ ['?'] := rfl
      rw [hline, dropBareMark_snoc h]
      exact List.append_nil _
    · have hne : query.toList ≠ [] := fun he => hq (String.toList_eq_nil_iff.1 he)
      rw [Option.filter_some, if_pos (decide_eq_true hq)]
      exact (dropBareMark_append hne _).symm

namespace Uri

variable {s : String} {uri : Uri} {path : List Char} {query : Option (List Char)}

theorem hash_not_mem_dropFragment (cs : List Char) : '#' ∉ dropFragment cs := by
  intro hm
  have hp := List.all_eq_true.1 List.all_takeWhile '#' hm
  exact absurd hp (by decide)

theorem pieces_of_pathAndQuery? (h : pathAndQuery? cs = some (path, query)) :
    '?' ∉ path ∧
      dropFragment cs = requestLine (String.ofList path) (query.map String.ofList) := by
  rw [pathAndQuery?] at h
  rw [requestLine, String.toList_ofList]
  cases hc : Fields.cut? '?' (dropFragment cs) with
  | none =>
    simp only [hc, Option.ite_none_right_eq_some, Option.some.injEq, Prod.mk.injEq] at h
    obtain ⟨_, rfl, rfl⟩ := h
    exact ⟨Fields.cut?_eq_none_iff.1 hc, (List.append_nil _).symm⟩
  | some pieces =>
    obtain ⟨before, after⟩ := pieces
    simp only [hc, Option.ite_none_right_eq_some, Option.some.injEq, Prod.mk.injEq] at h
    obtain ⟨_, rfl, rfl⟩ := h
    obtain ⟨hcs, hb⟩ := Fields.cut?_eq_some_iff.1 hc
    rw [Option.map_some, Option.elim_some, String.toList_ofList]
    exact ⟨hb, hcs⟩

theorem requestLine_of_origin (h : ofText? s = some uri) (ho : s.toList.head? = some '/') :
    '?' ∉ uri.path.toList ∧ dropFragment s.toList = requestLine uri.path uri.query := by
  rw [ofText?, Option.ite_none_left_eq_some] at h
  obtain ⟨_, h⟩ := h
  obtain ⟨cs, hs⟩ := List.head?_eq_some_iff.1 ho
  rw [hs] at h ⊢
  obtain ⟨⟨path, query⟩, hp, hu⟩ := Option.bind_eq_some_iff.1 h
  cases hu
  rw [String.toList_ofList]
  exact pieces_of_pathAndQuery? hp

theorem head?_path_of_origin {query : Option String}
    (h : dropFragment cs = requestLine target query) (ho : cs.head? = some '/') :
    target.toList.head? = some '/' := by
  obtain ⟨cs, rfl⟩ := List.head?_eq_some_iff.1 ho
  have hd : dropFragment ('/' :: cs) = '/' :: dropFragment cs := rfl
  rw [hd, requestLine] at h
  cases hp : target.toList with
  | nil =>
    rw [hp] at h
    cases query <;> cases h
  | cons c path =>
    rw [hp] at h
    rw [List.head?_cons, (List.cons.inj h).1]

end Uri

/-- The target and the query that are recorded rebuild the text of the request up to its fragment,
but for a question mark that opens no query. -/
theorem record_rebuilds_request_line {s : String} {request : Request}
    (h : Uri.ofText? s = some request.uri) (ho : s.toList.head? = some '/') :
    let info := Protocol.http.describe request
    info.target.toList.head? = some '/' ∧
    '?' ∉ info.target.toList ∧ '#' ∉ info.target.toList ∧
    (∀ query, info.query = some query → query ≠ "" ∧ '#' ∉ query.toList) ∧
    requestLine info.target info.query = dropBareMark (s.toList.takeWhile (· ≠ '#')) ∧
    Protocol.grpc.describe request = ⟨info.method, info.target, none, none, none⟩ := by
  intro info
  obtain ⟨hmark, hline⟩ := Uri.requestLine_of_origin h ho
  have hhash := Uri.hash_not_mem_dropFragment s.toList
  have hhead := Uri.head?_path_of_origin hline ho
  have hrebuilt : requestLine info.target info.query = dropBareMark (Uri.dropFragment s.toList) := by
    rw [hline]
    exact requestLine_filter hmark request.uri.query
  rw [hline, requestLine, List.mem_append, not_or] at hhash
  refine ⟨hhead, hmark, hhash.1, ?_, hrebuilt, rfl⟩
  intro query hq
  obtain ⟨hm, hne⟩ := Option.filter_eq_some_iff.1 hq
  rw [hm] at hhash
  exact ⟨of_decide_eq_true hne, fun hc => hhash.2 (List.mem_cons_of_mem '?' hc)⟩

theorem record_rebuilds_request_line_of_marks :
    let request : Request := { uri := ⟨"/a", some "?b=é?"⟩ }
    Uri.ofText? "/a??b=é?#c?d#e" = some request.uri ∧
    "/a??b=é?#c?d#e".toList.head? = some '/' ∧
    requestLine "/a" (some "?b=é?") = "/a??b=é?".toList ∧
    Protocol.grpc.describe request = ⟨"GET", "/a", none, none, none⟩ := by
  intro request
  have h : Uri.ofText? "/a??b=é?#c?d#e" = some request.uri := by decide +kernel
  obtain ⟨_, _, _, _, hline, hcall⟩ := record_rebuilds_request_line h (by decide)
  exact ⟨h, by decide, hline.trans (by decide), hcall⟩

end Gatehouse
