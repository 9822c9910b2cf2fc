import AndroidPatch.Misc.Buffer
import AndroidPatch.Ril.AtChannel.Defs

/-!
# The AT socket

The server of `altair_at_socket.c` and its client `altAtSocket/atSocketTest.c`: a frame with an
AT command, and with the prefix of its intermediate lines if it has any, is answered by a frame
with the response. `buff` and `resultBuff` are arrays of `atSocketMainLoop` that nothing clears.

A read returns as many bytes as it is asked for, or what is left of the stream, and fails if it is
asked for more than `SSIZE_MAX`. What a test of the build (`DEVELOPMENT_ENVIRONMENT`) adds is left
out.
-/

namespace AndroidPatch.Ril.Altair.AtSocket

open AtChannel

/-- `MAX_SIZE`, the size of `buff` and of `resultBuff`. -/
def maxSize : Nat := 65535

/-- `ALT_AT_SOCKET_RES_ERROR`, `_OK` and `_UNSOLICITED`. -/
inductive ResType where
  | error
  | ok
  | unsolicited
  deriving DecidableEq, Repr

def ResType.toByte : ResType → Char
  | .error => Char.ofNat 0
  | .ok => Char.ofNat 1
  | .unsolicited => Char.ofNat 3

/-- A conversion to `unsigned char`. -/
def uchar (n : Nat) : Char := Char.ofNat (n % 256)

/-- A conversion to `size_t`. -/
def sizeT (n : Int) : Nat := (n % 0x100000000).toNat

/-- The two bytes that a frame starts with. -/
def frameMark : CString := ['\x03', '\x00']

/-! ## The client -/

/-- The size of the strings of a frame with their terminators. -/
def payloadSize (atCmd : CString) (atCmdPrefix : Option CString) : Nat :=
  atCmd.length + 1 + match atCmdPrefix with
    | some p => p.length + 1
    | none => 0

/-- `writeToATSocket` of the client (`atSocketTest.c:35-66`): the bytes that go to the socket.
    `buffer` is static. -/
def writeToATSocket (buffer : Nat → Char) (atCmd : CString) (atCmdPrefix : Option CString) :
    CString :=
  let bufferSize := 4 + payloadSize atCmd atCmdPrefix
  let buffer := blit buffer 0 (frameMark ++ [uchar (bufferSize / 256), uchar bufferSize])
  let buffer := blit buffer 4 (atCmd ++ [nul])
  let buffer := match atCmdPrefix with
    | some p => blit buffer (5 + atCmd.length) (p ++ [nul])
    | none => buffer
  slice buffer 0 bufferSize

/-- The number in the two length bytes of a header. -/
def lengthField (l1 l2 : Char) : Nat := (l1.toNat % 256) * 256 + l2.toNat % 256

/-- What `readFromAtSocket` of the client asks of the read into a buffer of `bufferSize` bytes,
    unless it gives up before it. -/
def readFromAtSocketAsks (bufferSize : Nat) (l1 l2 : Char) : Option Nat :=
  let rcvBSize := sizeT (lengthField l1 l2 - 5)
  if rcvBSize ≤ bufferSize then some rcvBSize else none

/-- `readFromAtSocket` of the client (`atSocketTest.c:68-86`): the byte of the type, the buffer and
    the stream behind the frame. -/
def readFromAtSocket (buffer : Nat → Char) (bufferSize : Nat) :
    CString → Option (Char × (Nat → Char) × CString)
  | c1 :: c2 :: l1 :: l2 :: type :: rest =>
      if [c1, c2] = frameMark then do
        let rcvBSize ← readFromAtSocketAsks bufferSize l1 l2
        let bytes := rest.take rcvBSize
        if bytes.length = rcvBSize then
          return (type, blit buffer 0 bytes, rest.drop rcvBSize)
        else none
      else none
  | _ => none

/-! ## Reading a request -/

/-- `read` of `n` bytes: its result, the bytes that it stores and the stream behind them. -/
def readSocket (n : Nat) (stream : CString) : Int × CString × CString :=
  if 0x7fffffff < n then (-1, [], stream)
  else ((stream.take n).length, stream.take n, stream.drop n)

/-- How `readFromATSocket` ends: with the buffer, for a payload of `len` bytes, or with `NULL`. -/
inductive Received where
  | payload (len : Nat) (buffer : Nat → Char) (rest : CString)
  | closed (buffer : Nat → Char)

/-- What `readFromATSocket` asks of the read into the buffer, unless it gives up before it. -/
def readFromATSocketAsks (l1 l2 : Char) : Option Nat :=
  let bufferSize := sizeT (lengthField l1 l2 - 4)
  if 4 ≤ bufferSize then some bufferSize else none

/-- `readFromATSocket` (`altair_at_socket.c:68-79`): the result of the read is compared as a
    `size_t`. -/
def readFromATSocket (buffer : Nat → Char) : CString → Received
  | c1 :: c2 :: l1 :: l2 :: rest =>
      if [c1, c2] = frameMark then
        match readFromATSocketAsks l1 l2 with
        | none => .closed buffer
        | some bufferSize =>
            let (result, bytes, rest) := readSocket bufferSize rest
            if sizeT result = bufferSize then .payload bufferSize (blit buffer 0 bytes) rest
            else .closed (blit buffer 0 bytes)
      else .closed buffer
  | _ => .closed buffer

/-- The string at `buffer + i`, unless no terminator follows in the array. -/
def stringAt (buffer : Nat → Char) (i : Nat) : Option CString :=
  (scan (· != nul) buffer (maxSize - i) i).map fun j => slice buffer i j

/-- The command and the prefix that `atSocketMainLoop` finds in a payload
    (`altair_at_socket.c:290-296`); the prefix is read to its end when it is logged. -/
def splitPayload (buff : Nat → Char) (len : Nat) : Option (CString × Option CString) := do
  let message ← stringAt buff 0
  if message.length + 1 < len then
    let p ← stringAt buff (message.length + 1)
    return (message, some p)
  else return (message, none)

/-! ## Answering it -/

/-- What `at_send_command` and `at_send_command_multiline` give; the response counts only if
    `err` is 0. -/
structure Outcome where
  err : Int
  response : ATResponse
  deriving DecidableEq, Repr

/-- The loop around the command: it is sent again while another one is pending. -/
def sendCommand : List Outcome → Option Outcome
  | [] => none
  | o :: os => if o.err = atErrorCommandPending then sendCommand os else some o

/-- The lines of a response, as long as they fit. -/
def appendLines : List CString → (buff : Nat → Char) → (len : Nat) → (Nat → Char) × Nat
  | [], buff, len => (buff, len)
  | line :: lines, buff, len =>
      if len + line.length + 3 ≤ maxSize then
        appendLines lines (blit buff len (line ++ ['\n', '\r'])) (len + line.length + 2)
      else appendLines lines buff len

/-- `processMessage` (`altair_at_socket.c:105-156`) once the command has its outcome: the type of
    the answer and the buffer with its text. Absent when the final line is `NULL` or is copied
    over the end of the buffer. -/
def processMessage (o : Outcome) (buff : Nat → Char) : Option (ResType × (Nat → Char)) :=
  if o.err = 0 then do
    let (buff, len) := appendLines o.response.intermediates buff 0
    let final ← o.response.finalResponse
    if len + final.length + 1 ≤ maxSize then
      return (if o.response.success then .ok else .error, blit buff len (final ++ [nul]))
    else none
  else some (.error, buff)

/-- An answer: its type and its text. -/
structure Reply where
  type : ResType
  text : CString
  deriving DecidableEq, Repr

/-- `writeToAtSocket` of the server (`altair_at_socket.c:81-103`): the bytes of an answer, or of
    an unsolicited line, when both sends go through. -/
def writeToAtSocket (r : Reply) : CString :=
  let bufferSize := r.text.length + 1
  frameMark ++ [uchar ((bufferSize + 5) / 256), uchar (bufferSize + 5), r.type.toByte] ++
    (r.text ++ [nul])

/-- The two arrays. -/
structure Buffers where
  buff : Nat → Char
  resultBuff : Nat → Char

/-- How a turn of the inner loop of `atSocketMainLoop` ends. -/
inductive Turn where
  | answered (command : CString) (pre : Option CString) (reply : Reply) (b : Buffers)
      (rest : CString)
  | closed (b : Buffers)
  /-- the command is pending still -/
  | waiting
  /-- an access outside of an array, or the copy of a `NULL` string -/
  | fault

/-- A turn of the inner loop (`altair_at_socket.c:284-305`) on a stream; `outcomes` are those of
    the commands that it sends. -/
def serve (b : Buffers) (stream : CString) (outcomes : List Outcome) : Turn :=
  match readFromATSocket b.buff stream with
  | .closed buff => .closed { b with buff := buff }
  | .payload len buff rest =>
      match splitPayload buff len with
      | none => .fault
      | some (message, p) =>
          match sendCommand outcomes with
          | none => .waiting
          | some o =>
              match processMessage o b.resultBuff with
              | none => .fault
              | some (type, resultBuff) =>
                  match stringAt resultBuff 0 with
                  | none => .fault
                  | some text => .answered message p ⟨type, text⟩ ⟨buff, resultBuff⟩ rest

/-- The turns on a stream, one for each list of outcomes, if all of them answer: the buffers and
    the stream after them. -/
def serveAll : Buffers → CString → List (List Outcome) → Option (Buffers × CString)
  | b, stream, [] => some (b, stream)
  | b, stream, outcomes :: more =>
      match serve b stream outcomes with
      | .answered _ _ _ b' rest => serveAll b' rest more
      | _ => none

end AndroidPatch.Ril.Altair.AtSocket
