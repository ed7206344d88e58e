import AccountRelay.Bundler.Client
import AccountRelay.Proofs.Addresses
import AccountRelay.Proofs.Dialogue.Exchanges
import AccountRelay.Proofs.Json.Members
import AccountRelay.Proofs.Json.ReadingBack

/-! # What a bundler's answers are worth

An answer grants a value when it is an object under a status of success that has the value as its
result and no error (`Bundler.Grants`). With an error in it, it is a rejection, which repeats what the
error tells (`Bundler.Reports`). A call is worth what its answer grants, and it is a rejection just when
the answer has an error; so a hash that an operation was handed over for was written in an answer
without one (`Bundler.answers_classified`). An error that is `null` is an error too
(`Bundler.turned_down_by_null`).
-/

namespace AccountRelay

open Json (Node Value)

namespace Json.Value

/-- Only a string has a text. -/
theorem text?_eq_some_iff {value : Value} {text : String} :
    value.text? = some text ↔ value = .string text := by
  cases value <;> simp [text?]

/-- Only a whole number below 2^63 is a number of 64 bits. -/
theorem int64?_eq_some_iff {value : Value} {code : Int} :
    value.int64? = some code ↔ value = .number (.integer code) ∧ code < 2 ^ 63 := by
  have bound : Int64.maxValue.toInt = 2 ^ 63 - 1 := rfl
  unfold int64?
  split
  · next own =>
      rw [bound, Option.ite_none_right_eq_some, Option.some.injEq, Value.number.injEq,
        Number.integer.injEq]
      constructor
      · rintro ⟨small, rfl⟩
        exact ⟨rfl, by omega⟩
      · rintro ⟨rfl, small⟩
        exact ⟨by omega, rfl⟩
  · next other =>
      constructor
      · nofun
      · rintro ⟨rfl, -⟩
        exact absurd rfl (other code)

/-- Nothing is read of a member when none under the key can be read. -/
theorem get?_bind_eq_none {α : Type} {read : Value → Option α} {value : Value} {key : String}
    (unread : ∀ member made, read member = some made → value.get? key ≠ some member) :
    (value.get? key).bind read = none := by
  rw [Option.bind_eq_none_iff]
  intro member told
  rw [Option.eq_none_iff_forall_ne_some]
  exact fun made reads => unread member made reads told

end Json.Value

/-- What is put down by the printer of documents is read back as what it means. -/
theorem HttpReply.document_pretty {node : Node} {value : Value} (plain : node.IsPlain)
    (means : Value.ofNode? node = some value) (status : Nat) :
    (⟨status, .ofText node.pretty⟩ : HttpReply).document = .ok value := by
  simp only [document, Bytes.text?_ofText, Option.bind_some, Json.read_pretty plain, means]

namespace Bundler

/-- A call of a method, with the answer to it. -/
def called (url method : String) (params : List Value) (answer : Except String HttpReply) :
    Exchange Http :=
  ⟨⟨url, callBody method params⟩, answer⟩

/-- An answer that grants a value; only an object has members. -/
inductive Grants (value : Value) : Except String HttpReply → Prop
  | of_result {reply : HttpReply} {document : Value}
      (successful : 200 ≤ reply.status ∧ reply.status < 300)
      (reads : reply.document = .ok document)
      (errorless : document.get? "error" = none)
      (result : document.get? "result" = some value) : Grants value (.ok reply)

/-- An answer with an error in it, under whatever status. -/
inductive HasError (error : Value) : Except String HttpReply → Prop
  | of_error {reply : HttpReply} {document : Value}
      (reads : reply.document = .ok document)
      (tells : document.get? "error" = some error) : HasError error (.ok reply)

/-- A rejection that repeats what an error tells. -/
structure Reports (method : String) (error : Value) (rejection : Rejection) : Prop where
  method : rejection.method = method
  /-- The code, as far as a signed number of 64 bits goes. -/
  code (code : Int) : error.get? "code" = some (.number (.integer code)) → code < 2 ^ 63 →
    rejection.code = code
  codeless : (∀ code < 2 ^ 63, error.get? "code" ≠ some (.number (.integer code))) →
    rejection.code = 0
  message (text : String) : error.get? "message" = some (.string text) → rejection.message = text
  wordless : (∀ text, error.get? "message" ≠ some (.string text)) → rejection.message = error.toText
  data : rejection.data = error.get? "data"

/-- The keys of a result that names an operation, in the order of their precedence. -/
def hashKeys : List String := ["result", "userOpHash", "userOperationHash"]

/-- A result that names an operation by a text: the text itself, or an object with it as the first text
under one of the keys. -/
inductive Names (text : String) : Value → Prop
  | bare : Names text (.string text)
  | wrapped {members : List (String × Value)}
      (first : hashKeys.findSome? (fun key => (members.lookup key).bind Value.text?) = some text) :
      Names text (.object members)

/-! ## Errors -/

/-- The rejection that is made of an error repeats it. -/
theorem reports_rejection (method : String) (error : Value) :
    Reports method error (rejection method error) where
  method := rfl
  code code told small := by
    rw [rejection, told, Option.bind_some, Value.int64?_eq_some_iff.mpr ⟨rfl, small⟩,
      Option.getD_some]
  codeless untold := by
    have none_read : (error.get? "code").bind Value.int64? = none := by
      apply Value.get?_bind_eq_none
      intro member code read
      obtain ⟨rfl, small⟩ := Value.int64?_eq_some_iff.mp read
      exact untold code small
    rw [rejection, none_read, Option.getD_none]
  message text told := by
    rw [rejection, told, Option.bind_some, Value.text?_eq_some_iff.mpr rfl, Option.getD_some]
  wordless untold := by
    have none_read : (error.get? "message").bind Value.text? = none := by
      apply Value.get?_bind_eq_none
      intro member text read
      obtain rfl := Value.text?_eq_some_iff.mp read
      exact untold text
    rw [rejection, none_read, Option.getD_none]
  data := rfl

/-! ## Calls -/

section Calls

variable {url method : String} {params : List Value} {answer : Except String HttpReply}
  {exchanges : List (Exchange Http)} {status : Nat} {document value : Value} {rejected : Rejection}

/-- A reply without an error and under a status of success is worth its result. -/
theorem result_eq_ok_iff :
    result method status document = .ok value ↔
      document.get? "error" = none ∧ (200 ≤ status ∧ status < 300) ∧
        document.get? "result" = some value := by
  unfold result
  cases document.get? "error" with
  | some error => simp
  | none =>
      cases document.get? "result" with
      | none => simp [ite_eq_iff]
      | some own => simp [Http.isSuccess, ite_eq_iff]

/-- A reply is a rejection when it has an error in it. -/
theorem result_eq_rejected_iff :
    result method status document = .error (.rejected rejected) ↔
      ∃ error, document.get? "error" = some error ∧ rejected = rejection method error := by
  unfold result
  cases document.get? "error" with
  | some error => simp [eq_comm]
  | none =>
      cases document.get? "result" with
      | none => simp [ite_eq_iff]
      | some own => simp [ite_eq_iff]

/-- What a call makes of an answer. -/
def worth (url method : String) (answer : Except String HttpReply) : Except Failure Value := do
  let reply ← answer.mapError fun text => .within (.post url) (.external .http text)
  let document ← reply.document
  result method reply.status document

/-- A call is worth the value that its answer grants. -/
theorem worth_eq_ok_iff : worth url method answer = .ok value ↔ Grants value answer := by
  constructor
  · intro granted
    obtain ⟨reply, answered, read_off⟩ := Outcome.bind_eq_ok_iff.mp granted
    obtain ⟨document, reads, found⟩ := Outcome.bind_eq_ok_iff.mp read_off
    obtain rfl := Outcome.mapError_eq_ok_iff.mp answered
    obtain ⟨errorless, successful, result⟩ := result_eq_ok_iff.mp found
    exact .of_result successful reads errorless result
  · rintro ⟨successful, reads, errorless, result⟩
    exact Outcome.bind_eq_ok_iff.mpr ⟨_, rfl, Outcome.bind_eq_ok_iff.mpr
      ⟨_, reads, result_eq_ok_iff.mpr ⟨errorless, successful, result⟩⟩⟩

/-- A call is a rejection when its answer has an error in it. -/
theorem worth_eq_rejected_iff :
    worth url method answer = .error (.rejected rejected) ↔
      ∃ error, HasError error answer ∧ rejected = rejection method error := by
  constructor
  · intro turned_down
    rcases Outcome.bind_eq_error turned_down with unreached | ⟨reply, answered, read_off⟩
    · cases answer <;> cases unreached
    rcases Outcome.bind_eq_error read_off with unread | ⟨document, reads, found⟩
    · unfold HttpReply.document at unread
      split at unread <;> cases unread
    obtain rfl := Outcome.mapError_eq_ok_iff.mp answered
    obtain ⟨error, tells, rfl⟩ := result_eq_rejected_iff.mp found
    exact ⟨error, .of_error reads tells, rfl⟩
  · rintro ⟨error, ⟨reads, tells⟩, rfl⟩
    rw [worth, Outcome.mapError_ok]
    change (HttpReply.document _ >>= result method _) = _
    rw [reads]
    exact result_eq_rejected_iff.mpr ⟨error, tells, rfl⟩

/-- A call is one post, and what its answer is worth. -/
theorem call_eq_ask (url method : String) (params : List Value) :
    call url method params =
      .ask (I := Http) ⟨url, callBody method params⟩ fun answer =>
        .ofExcept (worth url method answer) := by
  unfold call Http.post
  rw [Dialogue.ask_bind]
  congr 1
  funext answer
  simp only [worth, Dialogue.ofExcept_bind]

/-- A call has one exchange, whatever the answer. -/
theorem ends_call_iff {outcome : Except Failure Value} :
    (call url method params).Ends exchanges outcome ↔
      ∃ answer, exchanges = [called url method params answer] ∧ outcome = worth url method answer := by
  rw [call_eq_ask]
  exact Dialogue.ends_ask_ofExcept_iff

/-- With a given answer a call ends with what the answer is worth. -/
theorem ends_call_called_iff {outcome : Except Failure Value} :
    (call url method params).Ends [called url method params answer] outcome ↔
      outcome = worth url method answer := by
  rw [ends_call_iff]
  constructor
  · rintro ⟨_, ⟨⟩, same⟩
    exact same
  · exact fun same => ⟨answer, rfl, same⟩

/-- Who asks for something reads it in what the answer is worth. -/
theorem ends_asked_iff {α : Type} {read : Value → Except Failure α} {outcome : Except Failure α} :
    (asked url method params read).Ends exchanges outcome ↔
      ∃ answer, exchanges = [called url method params answer] ∧
        outcome = (worth url method answer >>= read) := by
  rw [asked, call_eq_ask, Dialogue.ask_bind]
  simp only [Dialogue.ofExcept_bind]
  exact Dialogue.ends_ask_ofExcept_iff

end Calls

/-! ## Hashes -/

section Hashes

variable {result : Value} {text : String} {hash : Hash}

/-- An object names an operation by the first text under its keys. -/
theorem hashText?_object (members : List (String × Value)) :
    hashText? (.object members) =
      hashKeys.findSome? fun key => (members.lookup key).bind Value.text? := by
  simp only [hashText?, hashKeys, List.findSome?, Value.text?, Value.get?]
  cases (members.lookup "result").bind Value.text? with
  | some text => rfl
  | none =>
      cases (members.lookup "userOpHash").bind Value.text? with
      | some text => rfl
      | none => cases (members.lookup "userOperationHash").bind Value.text? <;> rfl

/-- A text is found in a result when the result names an operation by it. -/
theorem hashText?_eq_some_iff : hashText? result = some text ↔ Names text result := by
  constructor
  · intro named
    cases result with
    | string own =>
        cases named
        exact .bare
    | object members => exact .wrapped ((hashText?_object members).symm.trans named)
    | null | bool | number | array => cases named
  · intro named
    cases named with
    | bare => rfl
    | wrapped first => exact (hashText?_object _).trans first

/-- A result is read as a hash when it names an operation by the digits of one. -/
theorem operationHash_eq_ok_iff :
    operationHash result = .ok hash ↔ ∃ text, Names text result ∧ Hash.parse text = .ok hash := by
  unfold operationHash
  simp only [← hashText?_eq_some_iff]
  cases hashText? result with
  | none => simp
  | some text => simp

/-- An operation is handed over for the hash that is spelled in what the answer grants. -/
theorem ends_send_iff {url : String} {operation : Operation} {entryPoint : Address}
    {exchanges : List (Exchange Http)} :
    (send url operation entryPoint).Ends exchanges (.ok hash) ↔
      ∃ answer result text digits,
        exchanges = [called url "eth_sendUserOperation"
          [operation.toSendBody, .string entryPoint.toText] answer] ∧
        Grants result answer ∧ Names text result ∧
        Hex.IsBehind 1 text.toList digits ∧ Hex.Spells digits hash.toList := by
  rw [send, ends_asked_iff]
  constructor
  · rintro ⟨answer, rfl, read⟩
    obtain ⟨result, granted, reads⟩ := Outcome.bind_eq_ok_iff.mp read.symm
    obtain ⟨text, named, parsed⟩ := operationHash_eq_ok_iff.mp reads
    obtain ⟨digits, behind, spells⟩ := (Hash.readsExactly_parse.finds text hash).mp parsed
    exact ⟨answer, result, text, digits, rfl, worth_eq_ok_iff.mp granted, named, behind, spells⟩
  · rintro ⟨answer, result, text, digits, rfl, granted, named, behind, spells⟩
    have parsed := (Hash.readsExactly_parse.finds text hash).mpr ⟨digits, behind, spells⟩
    have reads := operationHash_eq_ok_iff.mpr ⟨text, named, parsed⟩
    refine ⟨answer, rfl, Eq.symm ?_⟩
    exact Outcome.bind_eq_ok_iff.mpr ⟨result, worth_eq_ok_iff.mpr granted, reads⟩

end Hashes

/-- **Answers are classified by their error, then their status, then their result.** A call puts one
question and ends on every answer. It is worth a value just when the answer grants it, so under a status
of success, by an object that has a result and no error. Any error in an object makes it a rejection of
the method that repeats the error, under whatever status and even beside a result, and nothing else
does. So an operation is handed over for a hash just when an answer without an error has it spelled in
its result. -/
theorem answers_classified (url : String) :
    (∀ (method : String) (params : List Value),
      (∀ exchanges, (∃ outcome, (call url method params).Ends exchanges outcome) ↔
        ∃ answer, exchanges = [called url method params answer]) ∧
      ∀ answer outcome, (call url method params).Ends [called url method params answer] outcome →
        (∀ value, outcome = .ok value ↔ Grants value answer) ∧
        (∀ error, HasError error answer →
          ∃ rejected, outcome = .error (.rejected rejected) ∧ Reports method error rejected) ∧
        ∀ rejected, outcome = .error (.rejected rejected) → ∃ error, HasError error answer) ∧
    ∀ (operation : Operation) (entryPoint : Address) (exchanges : List (Exchange Http)) (hash : Hash),
      (send url operation entryPoint).Ends exchanges (.ok hash) ↔
        ∃ answer result text digits,
          exchanges = [called url "eth_sendUserOperation"
            [operation.toSendBody, .string entryPoint.toText] answer] ∧
          Grants result answer ∧ Names text result ∧
          Hex.IsBehind 1 text.toList digits ∧ Hex.Spells digits hash.toList := by
  refine ⟨fun method params => ⟨fun exchanges => ?_, ?_⟩, ?_⟩
  · constructor
    · rintro ⟨outcome, ends⟩
      obtain ⟨answer, asked, -⟩ := ends_call_iff.mp ends
      exact ⟨answer, asked⟩
    · rintro ⟨answer, asked⟩
      exact ⟨_, ends_call_iff.mpr ⟨answer, asked, rfl⟩⟩
  · intro answer outcome ends
    obtain rfl := ends_call_called_iff.mp ends
    refine ⟨fun value => worth_eq_ok_iff, ?_, ?_⟩
    · intro error tells
      exact ⟨_, worth_eq_rejected_iff.mpr ⟨error, tells, rfl⟩, reports_rejection method error⟩
    · intro rejected turned_down
      obtain ⟨error, tells, -⟩ := worth_eq_rejected_iff.mp turned_down
      exact ⟨error, tells⟩
  · exact fun operation entryPoint exchanges hash => ends_send_iff

/-- An operation that a bundler takes. -/
def takenOperation : Operation where
  sender := .filled 20 0x5e
  nonce := 0
  gas := ⟨21000, 21000, 21000⟩
  fees := ⟨1, 1⟩

/-- The hash that it is taken for. -/
def takenHash : Hash := .filled 32 0x11

/-- The reply of a bundler that wraps the hash. -/
def takenReply : HttpReply where
  status := 200
  body := .ofText (Node.object [(Json.Piece.ofText "result",
    .object [(Json.Piece.ofText "userOpHash", .ofText takenHash.toText)])]).pretty

/-- A reply with an error beside the hash. -/
def replyWith (status : Nat) (error : Node) : HttpReply where
  status
  body := .ofText (Node.object [(Json.Piece.ofText "error", error),
    (Json.Piece.ofText "result", .ofText takenHash.toText)]).pretty

/-- An error with a code. -/
def errorNode (code : Nat) : Node :=
  .object [(Json.Piece.ofText "code", .ofNat code),
    (Json.Piece.ofText "message", .ofText "execution reverted")]

/-- The digits of the hash need no escapes. -/
theorem isPlain_takenHash : (Node.ofText takenHash.toText).IsPlain :=
  .string (Hex.isPlain_ofText_marked takenHash.toList)

/-- The reply that wraps the hash is read as the object it is. -/
theorem document_takenReply :
    takenReply.document =
      .ok (.ofMembers [("result", .ofMembers [("userOpHash", .string takenHash.toText)])]) := by
  apply HttpReply.document_pretty
  · refine .object (by simp [Json.Piece.ofText, Json.Piece.IsPlain]) ?_
    refine List.forall_mem_singleton.mpr (.object (by simp [Json.Piece.ofText, Json.Piece.IsPlain]) ?_)
    exact List.forall_mem_singleton.mpr isPlain_takenHash
  · simp [Value.ofNode?, Value.ofNodeWithin?, Value.ofNodeMembers?, Json.Piece.text?_ofText,
      Node.ofText]

/-- The reply with an error is read with the error beside the hash. -/
theorem document_replyWith {error : Node} {told : Value} (plain : error.IsPlain)
    (means : Value.ofNodeWithin? 126 error = some told) (status : Nat) :
    (replyWith status error).document =
      .ok (.ofMembers [("error", told), ("result", .string takenHash.toText)]) := by
  apply HttpReply.document_pretty
  · refine .object (by simp [Json.Piece.ofText, Json.Piece.IsPlain]) ?_
    simp only [List.forall_mem_cons]
    exact ⟨plain, isPlain_takenHash, List.forall_mem_nil _⟩
  · simp [Value.ofNode?, Value.ofNodeWithin?, Value.ofNodeMembers?, Json.Piece.text?_ofText, means,
      Node.ofText]

/-- The reply with an error has just that error. -/
theorem hasError_replyWith {error : Node} {told : Value} (plain : error.IsPlain)
    (means : Value.ofNodeWithin? 126 error = some told) (status : Nat) :
    HasError told (.ok (replyWith status error)) :=
  .of_error (document_replyWith plain means status)
    (Value.get?_ofMembers_of_mem (by simp) List.mem_cons_self)

/-- The error with a code needs no escapes. -/
theorem isPlain_errorNode (code : Nat) : (errorNode code).IsPlain := by
  refine .object (by simp [Json.Piece.ofText, Json.Piece.IsPlain]) ?_
  simp only [List.forall_mem_cons]
  refine ⟨.ofNat code, .string ?_, List.forall_mem_nil _⟩
  simp [Json.Piece.ofText, Json.Piece.IsPlain]

/-- The error as a reply tells it. -/
def toldError (code : Nat) : Value :=
  .ofMembers [("code", .number (.integer code)), ("message", .string "execution reverted")]

/-- An error whose code fits into 64 bits is read with that code. -/
theorem ofNodeWithin?_errorNode {code : Nat} (small : code < UInt64.size) :
    Value.ofNodeWithin? 126 (errorNode code) = some (toldError code) := by
  have number : Json.Literal.number? ⟨false, Numeral.render 10 code, [], none⟩ =
      some (.integer code) := by
    simp [Json.Literal.number?, Json.Literal.isWhole, Json.digitsValue_render, small]
  simp [Value.ofNodeWithin?, Value.ofNodeMembers?, Json.Piece.text?_ofText, errorNode, Node.ofText,
    Node.ofNat, number, toldError]

/-- The error is told with its code. -/
theorem get?_code_toldError (code : Nat) :
    (toldError code).get? "code" = some (.number (.integer code)) :=
  Value.get?_ofMembers_of_mem (by simp) List.mem_cons_self

/-- Under a status of failure and beside a result an error is repeated, and a hash is found where it is
wrapped. -/
theorem answers_classified_beside_result :
    HasError (toldError 3) (.ok (replyWith 500 (errorNode 3))) ∧
      (∃ exchanges outcome rejected,
        (call "http://[::1]:4337" "eth_sendUserOperation" []).Ends exchanges outcome ∧
          outcome = .error (.rejected rejected) ∧ rejected.method = "eth_sendUserOperation" ∧
          rejected.code = 3 ∧ rejected.message = "execution reverted") ∧
      ∃ exchanges,
        (send "http://[::1]:4337" takenOperation (.filled 20 0xee)).Ends exchanges (.ok takenHash) := by
  have has_error :=
    hasError_replyWith (isPlain_errorNode 3) (ofNodeWithin?_errorNode (by decide)) 500
  obtain ⟨calls, sends⟩ := answers_classified "http://[::1]:4337"
  obtain ⟨ends, classified⟩ := calls "eth_sendUserOperation" []
  obtain ⟨outcome, ended⟩ := (ends _).mpr ⟨.ok (replyWith 500 (errorNode 3)), rfl⟩
  obtain ⟨-, repeated, -⟩ := classified _ outcome ended
  obtain ⟨rejected, turned_down, reports⟩ := repeated _ has_error
  have message : (toldError 3).get? "message" = some (.string "execution reverted") :=
    Value.get?_ofMembers_of_mem (by simp) (.tail _ List.mem_cons_self)
  have granted : Grants (.ofMembers [("userOpHash", .string takenHash.toText)]) (.ok takenReply) :=
    .of_result (by decide) document_takenReply rfl rfl
  have taken := (sends takenOperation (.filled 20 0xee) _ takenHash).mpr
    ⟨_, _, _, _, rfl, granted, .wrapped rfl, Hex.isBehind_marked takenHash.toList,
      Hex.spells_encode takenHash.toList⟩
  exact ⟨has_error, ⟨_, outcome, rejected, ended, turned_down, reports.method,
    reports.code 3 (get?_code_toldError 3) (by decide), reports.message _ message⟩, _, taken⟩

/-- Beside a hash under a status of success, `null` for the error makes a rejection, and the code of an
error that takes more than a signed number of 64 bits is lost. -/
theorem turned_down_by_null :
    let answer : Except String HttpReply := .ok (replyWith 200 .null)
    let coded : Except String HttpReply := .ok (replyWith 200 (errorNode (2 ^ 63)))
    let exchange := called "http://[::1]:4337" "eth_sendUserOperation" []
    let work := call "http://[::1]:4337" "eth_sendUserOperation" []
    (replyWith 200 .null).document =
        .ok (.ofMembers [("error", .null), ("result", .string takenHash.toText)]) ∧
      ¬ work.Ends [exchange answer] (.ok (.string takenHash.toText)) ∧
      work.Ends [exchange answer] (.error (.rejected ⟨"eth_sendUserOperation", 0, "null", none⟩)) ∧
      HasError (toldError (2 ^ 63)) coded ∧
      ∃ rejected, work.Ends [exchange coded] (.error (.rejected rejected)) ∧ rejected.code = 0 := by
  intro answer coded exchange work
  have reads := document_replyWith .null (rfl : Value.ofNodeWithin? 126 .null = some .null) 200
  have turned_down : worth "http://[::1]:4337" "eth_sendUserOperation" answer =
      .error (.rejected ⟨"eth_sendUserOperation", 0, "null", none⟩) :=
    worth_eq_rejected_iff.mpr ⟨.null, hasError_replyWith .null rfl 200, rfl⟩
  have has_error := hasError_replyWith (isPlain_errorNode (2 ^ 63))
    (ofNodeWithin?_errorNode (by decide)) 200
  refine ⟨reads, ?_, ends_call_called_iff.mpr turned_down.symm, has_error, _,
    ends_call_called_iff.mpr (worth_eq_rejected_iff.mpr ⟨_, has_error, rfl⟩).symm, ?_⟩
  · intro granted
    have same := ends_call_called_iff.mp granted
    rw [turned_down] at same
    cases same
  · refine (reports_rejection _ _).codeless fun code small told => ?_
    rw [get?_code_toldError] at told
    cases told
    exact absurd small (by decide)

end Bundler

end AccountRelay
