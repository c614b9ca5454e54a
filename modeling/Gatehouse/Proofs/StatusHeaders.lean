import Gatehouse.Pipeline.Run
import Gatehouse.Proofs.HeaderText
import Gatehouse.Proofs.Utf8

namespace Gatehouse

namespace Grpc

theorem codeOfBytes_encode (code : RpcCode) :
    codeOfBytes (Utf8.encode (Decimal.digits code.number)) = code := by
  cases code <;> decide +kernel

end Grpc

namespace Grpc

theorem percent_not_plain : isPlainByte 0x25 = false := by decide

/-- The text that a message header spells; a header that is left out spells the empty one. -/
inductive SpellsText : Option HeaderValue → String → Prop where
  | absent : SpellsText none ""
  | coded {value : HeaderValue} {text : String} :
    Percent.decode value.bytes = text.toUTF8.data.toList → SpellsText (some value) text

theorem spellsText_messageValue (message : String) :
    SpellsText (some (messageValue message)) message := by
  apply SpellsText.coded
  rw [← Utf8.encode_toList]
  exact Percent.decode_encode percent_not_plain _

variable {message : Option HeaderValue} {text : String}

theorem ofCodeAndMessage_of_spellsText (h : SpellsText message text) (code : RpcCode) :
    Status.ofCodeAndMessage code ((message.map (·.bytes)).getD []) = ⟨code, text⟩ := by
  cases h with
  | absent => rfl
  | coded h =>
    rw [Option.map_some, Option.getD_some, Status.ofCodeAndMessage, h, ← Utf8.encode_toList,
      Utf8.decode_eq_ok_iff.2 rfl]
    simp only [String.ofList_toList]

theorem get?_toHeaders_status (status : Status) :
    status.toHeaders.get? .grpcStatus = some (codeValue status.code) := by
  rw [Status.toHeaders]
  split
  · rw [Headers.get?_set_self]
  · rw [Headers.get?_set_of_ne _ (by decide), Headers.get?_set_self]

theorem values_toHeaders_message (status : Status) :
    status.toHeaders.values .grpcMessage =
      if status.message = "" then [] else [messageValue status.message] := by
  rw [Status.toHeaders]
  split
  · rw [Headers.values_set_of_ne _ (by decide), Headers.values_set_of_ne _ (by decide)]
    rfl
  · rw [Headers.values_set_self]

theorem get?_toHeaders_details (status : Status) : status.toHeaders.get? .grpcDetails = none := by
  rw [Status.toHeaders]
  split
  · rw [Headers.get?_set_of_ne _ (by decide), Headers.get?_set_of_ne _ (by decide)]
    rfl
  · rw [Headers.get?_set_of_ne _ (by decide), Headers.get?_set_of_ne _ (by decide),
      Headers.get?_set_of_ne _ (by decide)]
    rfl

theorem spellsText_toHeaders (status : Status) :
    SpellsText (status.toHeaders.get? .grpcMessage) status.message := by
  rw [Headers.get?, values_toHeaders_message]
  split
  · rename_i h
    rw [h]
    exact .absent
  · exact spellsText_messageValue status.message

theorem ofHeaders?_toHeaders (status : Status) :
    Status.ofHeaders? status.toHeaders = .ok (some status) := by
  rw [Status.ofHeaders?, get?_toHeaders_status, get?_toHeaders_details]
  simp only [ofCodeAndMessage_of_spellsText (spellsText_toHeaders status), codeValue,
    codeOfBytes_encode]
  rfl

end Grpc

theorem deadlineMessage_ne_empty (timeout : Duration) : deadlineMessage timeout ≠ "" := by
  intro h
  have hm := (String.append_eq_empty_iff.1 (String.append_eq_empty_iff.1 h).1).1
  exact absurd hm (by decide)

/-- What is written for a status of a remote call is classified as its code and its message. -/
theorem written_status_reads_back (status : Grpc.Status) :
    Protocol.grpc.classify status.toResponse.status status.toResponse.headers =
      .ok (.rpc status.code,
        if status.code ≠ .ok ∧ status.message ≠ "" then some status.message else none) ∧
    (∀ value ∈ status.toResponse.headers.values .grpcMessage, ∀ b ∈ value.bytes,
      0x20 < b ∧ b < 0x7F) ∧
    ∀ timeout,
      Protocol.grpc.classify (Protocol.grpc.deadlineExceeded timeout).status
        (Protocol.grpc.deadlineExceeded timeout).headers =
        .ok (.rpc .deadlineExceeded, some (deadlineMessage timeout)) := by
  have reads (status : Grpc.Status) :
      Protocol.grpc.classify status.toResponse.status status.toResponse.headers =
        .ok (.rpc status.code,
          if status.code ≠ .ok ∧ status.message ≠ "" then some status.message else none) := by
    rw [Protocol.classify, Grpc.Status.toResponse, Grpc.ofHeaders?_toHeaders]
    rfl
  refine ⟨reads status, ?_, ?_⟩
  · intro value hv b hb
    rw [Grpc.Status.toResponse, Grpc.values_toHeaders_message] at hv
    split at hv
    · exact absurd hv List.not_mem_nil
    · rw [List.mem_singleton.1 hv] at hb
      exact Grpc.printable_of_mem_encode hb
  · intro timeout
    have hr : Protocol.grpc.deadlineExceeded timeout =
        Grpc.Status.toResponse ⟨.deadlineExceeded, deadlineMessage timeout⟩ := rfl
    rw [hr, reads, if_pos ⟨RpcCode.noConfusion, deadlineMessage_ne_empty timeout⟩]

theorem written_status_reads_back_of_percent :
    Grpc.messageBytes "5% é" = Utf8.encode "5%25%20%C3%A9".toList ∧
    (∀ b ∈ Grpc.messageBytes "5% é", 0x20 < b ∧ b < 0x7F) ∧
    Protocol.grpc.classify (Grpc.Status.toResponse ⟨.notFound, "5% é"⟩).status
      (Grpc.Status.toResponse ⟨.notFound, "5% é"⟩).headers = .ok (.rpc .notFound, some "5% é") := by
  obtain ⟨hr, hp, _⟩ := written_status_reads_back ⟨.notFound, "5% é"⟩
  refine ⟨by decide, ?_, ?_⟩
  · apply hp (Grpc.messageValue "5% é")
    rw [Grpc.Status.toResponse, Grpc.values_toHeaders_message]
    exact List.mem_singleton.2 rfl
  · rw [hr, if_pos ⟨by decide, by decide⟩]

end Gatehouse
