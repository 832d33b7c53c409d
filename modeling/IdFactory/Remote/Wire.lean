import IdFactory.Remote.Client

namespace IdFactory.Remote

/-!
# The program's transport

The transport the program runs its clients over. A response travels as a
message holding each identifier as a field: a tag byte, the identifier's
length in bytes as a variable-length integer of seven bits a byte, and its
bytes. A client decodes messages of at most 4 MiB; a longer one reaches it
as a status that it is out of range, naming the length found and the limit.
This transport is faithful, so everything the library proves of clients
over a faithful transport holds of the program's clients.
-/

/-- The number of bytes a variable-length integer takes: seven bits of the number a byte. -/
def varintLength (n : Nat) : Nat :=
  if n < 128 then 1 else 1 + varintLength (n / 128)
termination_by n
decreasing_by omega

/-- The length of the message answering an allocation with a batch. -/
def responseLength (ids : List Identifier) : Nat :=
  ids.foldl (fun total id => total + (1 + varintLength id.byteLength + id.byteLength)) 0

/-- The longest message a client decodes, in bytes. -/
def maxDecodedLength : Nat := 4194304

/-- The status a client sees for a message too long to decode. -/
def oversizeStatus (length : Nat) : Status :=
  ⟨.outOfRange, "Error, decoded message length too large: found " ++ toString length ++
    " bytes, the limit is: " ++ toString maxDecodedLength ++ " bytes"⟩

/-- What a client receives for an answer of the service: the answer itself, unless it is a batch
too long to decode. -/
def receive (answer : Except Status (List Identifier)) : Except Status (List Identifier) :=
  match answer with
  | .ok ids =>
    let length := responseLength ids
    if maxDecodedLength < length then .error (oversizeStatus length) else .ok ids
  | .error s => .error s

/-- The program's transport. -/
def wire : Transport :=
  ⟨receive, responseLength, maxDecodedLength⟩

/-- A batch whose response a client decodes reaches it as it is. -/
theorem receive_of_le {ids : List Identifier} (decoded : responseLength ids ≤ maxDecodedLength) :
    receive (.ok ids) = .ok ids := by
  simp [receive, Nat.not_lt.mpr decoded]

/-- A batch whose response is too long reaches a client as a status that it is out of range. -/
theorem receive_of_lt {ids : List Identifier} (tooLong : maxDecodedLength < responseLength ids) :
    receive (.ok ids) = .error (oversizeStatus (responseLength ids)) := by
  simp [receive, tooLong]

theorem wire_faithful : wire.Faithful where
  status _ := rfl
  within _ decoded := receive_of_le decoded
  beyond _ tooLong := ⟨_, receive_of_lt tooLong⟩

end IdFactory.Remote
