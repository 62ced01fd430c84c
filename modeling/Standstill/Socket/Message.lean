/-!
# The message of a socket run

The listener writes one message a cycle: a short text, filled up with zero
bytes. The connector reads at most as many bytes at once.

Results:
* `length_message`: a message has the size of the buffer.
-/
namespace Standstill.Socket

/-- The text that a message starts with. -/
def messageText : String := "nothing"

/-- The size of a message, and of the buffer it is read into. -/
def messageSize : Nat := 100

/-- The bytes that the listener writes in each cycle. -/
def message : List UInt8 :=
  let text := messageText.toUTF8.toList
  text ++ List.replicate (messageSize - text.length) 0

/-- Connections that may wait to be accepted. -/
def backlog : Nat := 1

theorem length_message : message.length = messageSize := by decide +kernel

end Standstill.Socket
