import Gatehouse.Http.Message
import Gatehouse.Text.Percent
import Gatehouse.Text.Base64
import Gatehouse.Text.Utf8

/-!
The status of a remote call as response headers. Reading takes any header bytes; only malformed
details cannot be read at all.
-/
namespace Gatehouse.Grpc

structure Status where
  code : RpcCode
  message : String
deriving DecidableEq

def isPlainByte (b : UInt8) : Bool :=
  32 < b && b < 127 && !("\"#%<>`?{}".toList.contains (Char.ofNat b.toNat))

theorem isValueByte_of_isVisibleByte {b : UInt8} (h : isVisibleByte b = true) :
    isValueByte b = true := by
  simp only [isVisibleByte, Bool.or_eq_true, Bool.and_eq_true, decide_eq_true_eq] at h
  simp only [isValueByte, Bool.or_eq_true, Bool.and_eq_true, decide_eq_true_eq]
  refine h.imp_right fun h => ⟨h.1, ?_⟩
  rintro rfl
  exact absurd h.2 (by decide)

def messageBytes (message : String) : List UInt8 :=
  Percent.encode isPlainByte (Utf8.encode message.toList)

theorem printable_of_mem_encode {bytes : List UInt8} {b : UInt8}
    (h : b ∈ Percent.encode isPlainByte bytes) : 0x20 < b ∧ b < 0x7F := by
  rcases Percent.eq_of_mem_encode h with plain | rfl | ⟨n, hn, rfl⟩
  · simp only [isPlainByte, Bool.and_eq_true, decide_eq_true_eq] at plain
    exact plain.1
  · decide
  · have all : ∀ m : Fin 16, 0x20 < (Hex.upper m).toNat.toUInt8 ∧
        (Hex.upper m).toNat.toUInt8 < 0x7F := by decide
    exact all ⟨n, hn⟩

theorem isVisibleByte_of_mem_encode {bytes : List UInt8} {b : UInt8}
    (h : b ∈ Percent.encode isPlainByte bytes) : isVisibleByte b = true := by
  obtain ⟨hl, hh⟩ := printable_of_mem_encode h
  simp only [isVisibleByte, Bool.or_eq_true, Bool.and_eq_true, decide_eq_true_eq]
  exact .inr ⟨UInt8.le_of_lt hl, hh⟩

def messageValue (message : String) : HeaderValue :=
  ⟨messageBytes message, List.all_eq_true.2 fun _ h =>
    isValueByte_of_isVisibleByte (isVisibleByte_of_mem_encode h)⟩

def codeValue (code : RpcCode) : HeaderValue :=
  ⟨Utf8.encode (Decimal.digits code.number), by cases code <;> decide +kernel⟩

def contentTypeValue : HeaderValue :=
  ⟨Utf8.encode "application/grpc".toList, by decide⟩

/-- The headers of a response that ends the call with `status`; an empty message is left out. -/
def Status.toHeaders (status : Status) : Headers :=
  let headers := (Headers.empty.set .contentType contentTypeValue).set .grpcStatus
    (codeValue status.code)
  if status.message = "" then headers
  else headers.set .grpcMessage (messageValue status.message)

def Status.toResponse (status : Status) : Response where
  status := .ok
  headers := status.toHeaders

/-- The code spelled by a header value; anything but the decimal form of a code is `unknown`. -/
def codeOfBytes (bytes : List UInt8) : RpcCode :=
  (RpcCode.all.find? fun c => Utf8.encode (Decimal.digits c.number) = bytes).getD .unknown

inductive ReadError where
  | malformedDetails
deriving DecidableEq

def faultText : Utf8.Fault → String
  | .invalid length start =>
    "invalid utf-8 sequence of " ++ Decimal.text length ++ " bytes from index " ++
      Decimal.text start
  | .incomplete start => "incomplete utf-8 byte sequence from index " ++ Decimal.text start

/-- The status of a code and the bytes of a message; a message that is not text makes the code
`unknown`. -/
def Status.ofCodeAndMessage (code : RpcCode) (bytes : List UInt8) : Status :=
  match Utf8.decode (Percent.decode bytes) with
  | .ok cs => ⟨code, String.ofList cs⟩
  | .error fault =>
    ⟨.unknown, "Error deserializing status message header: " ++ faultText fault⟩

def Status.ofHeaders? (headers : Headers) : Except ReadError (Option Status) :=
  match headers.get? .grpcStatus with
  | none => .ok none
  | some code =>
    let message := ((headers.get? .grpcMessage).map (·.bytes)).getD []
    let details := ((headers.get? .grpcDetails).map (·.bytes)).getD []
    if (Base64.decode? details).isSome then
      .ok (some (.ofCodeAndMessage (codeOfBytes code.bytes) message))
    else .error .malformedDetails

end Gatehouse.Grpc
