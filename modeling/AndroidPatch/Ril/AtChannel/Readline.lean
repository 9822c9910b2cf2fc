import AndroidPatch.Misc.Buffer
import AndroidPatch.Ril.AtChannel.Defs

/-!
# The line reader

`findNextEOL` and `readline` (`hardware/ril/altair-ril/atchannel.c:303-419`; the code of
`reference-ril` is the same) over the static buffer `s_ATBuffer`. Every access is checked
against the size of the buffer. Pointers into the buffer are indices.

Two things are recorded that the program does not keep: where in the received stream each byte
of the buffer comes from (`Cell.src`) and the end of the valid data between two calls
(`RxState.pRead`; the program has `p_read` only inside a call).
-/

namespace AndroidPatch.Ril.AtChannel

/-- `MAX_AT_RESPONSE`; `s_ATBuffer` has one more byte. -/
def maxAtResponse : Nat := 8 * 1024

/-- A byte of `s_ATBuffer` and its position in the received stream; a byte that the program
    itself has stored has none. -/
structure Cell where
  byte : Char
  src : Option Nat
  deriving DecidableEq, Repr

/-- A terminator stored by the program. -/
def nulCell : Cell := ⟨nul, none⟩

def isNewline (b : Char) : Bool := b == '\r' || b == '\n'

/-- A result of one `read` call: bytes (none of them at the end of the file), an error, or
    `EINTR`. -/
inductive ReadEvent where
  | chunk (bytes : CString)
  | fail
  | eintr
  deriving DecidableEq, Repr

/-- How the loop around `read` ends. -/
inductive ReadResult where
  | data (bytes : CString) (fd : List ReadEvent)
  | ended (fd : List ReadEvent)
  deriving DecidableEq, Repr

/-- The loop `do … while (count < 0 && errno == EINTR)` with room for `n` bytes. What does not
    fit stays in the descriptor; past the listed events it is at the end of the file. -/
def readFd (n : Nat) : List ReadEvent → ReadResult
  | [] => .ended []
  | .eintr :: es => readFd n es
  | .fail :: es => .ended es
  | .chunk bytes :: es =>
      if bytes = [] then .ended es
      else if bytes.length ≤ n then .data bytes es
      else .data (bytes.take n) (.chunk (bytes.drop n) :: es)

/-- The statics of the reader, and what is recorded besides. -/
structure RxState where
  buf : Nat → Cell
  cur : Nat
  fd : List ReadEvent
  pRead : Nat
  rxCount : Nat

/-- The statics when the program starts, on a descriptor that delivers `fd`. -/
def RxState.fresh (fd : List ReadEvent) : RxState := ⟨fun _ => nulCell, 0, fd, 0, 0⟩

/-- `at_open` sets the descriptor and leaves the buffer and the cursor as they are
    (`atchannel.c:588-631`). Positions in the stream count from the new descriptor on. -/
def RxState.atOpen (st : RxState) (fd : List ReadEvent) : RxState :=
  { st with fd := fd, rxCount := 0 }

inductive RxFault where
  /-- An access outside `s_ATBuffer[0 .. MAX_AT_RESPONSE]`. -/
  | outOfBounds
  /-- Not a behaviour of the program (`readline_ne_outOfFuel`). -/
  | outOfFuel
  deriving DecidableEq, Repr

def load (buf : Nat → Cell) (i : Nat) : Except RxFault Char :=
  if i ≤ maxAtResponse then .ok (buf i).byte else .error .outOfBounds

def store (buf : Nat → Cell) (i : Nat) (x : Cell) : Except RxFault (Nat → Cell) :=
  if i ≤ maxAtResponse then .ok (Function.update buf i x) else .error .outOfBounds

/-- The loop `while (p(*cur)) cur++`. -/
def advance (p : Char → Bool) (buf : Nat → Cell) (cur : Nat) : Except RxFault Nat :=
  match scan (fun x => p x.byte) buf (maxAtResponse + 1 - cur) cur with
  | some i => .ok i
  | none => .error .outOfBounds

/-- `cur[0] == '>' && cur[1] == ' ' && cur[2] == '\0'`. -/
def promptAt (buf : Nat → Cell) (cur : Nat) : Except RxFault Bool := do
  if (← load buf cur) = '>' then
    if (← load buf (cur + 1)) = ' ' then
      return decide ((← load buf (cur + 2)) = nul)
    else return false
  else return false

/-- `findNextEOL` (`atchannel.c:309-320`). -/
def findNextEOL (buf : Nat → Cell) (cur : Nat) : Except RxFault (Option Nat) := do
  if ← promptAt buf cur then return some (cur + 2)
  else
    let cur ← advance (fun b => b != nul && !isNewline b) buf cur
    if (buf cur).byte = nul then return none else return some cur

/-- The end of `readline`: the line from `cur` up to `eol` is returned. -/
def RxState.takeLine (st : RxState) (eol : Nat) : Except RxFault (Option (List Cell) × RxState) := do
  let line := slice st.buf st.cur eol
  let buf ← store st.buf eol nulCell
  return (some line, { st with buf := buf, cur := eol + 1 })

/-- `s_ATBufferCur = s_ATBuffer; *s_ATBufferCur = '\0'; p_read = s_ATBuffer`. -/
def RxState.reset (st : RxState) : RxState :=
  { st with buf := Function.update st.buf 0 nulCell, cur := 0, pRead := 0 }

/-- The received bytes with their positions in the stream. -/
def tagged (rxCount : Nat) (bytes : CString) : List Cell :=
  bytes.mapIdx fun i b => ⟨b, some (rxCount + i)⟩

/-- `read` has stored `bytes` at `p_read`, which advances; `p_read[count] = '\0'`. -/
def RxState.receive (st : RxState) (bytes : CString) (fd : List ReadEvent) :
    Except RxFault RxState := do
  let buf ← store (blit st.buf st.pRead (tagged st.rxCount bytes)) (st.pRead + bytes.length) nulCell
  return { st with
    buf := buf
    fd := fd
    pRead := st.pRead + bytes.length
    rxCount := st.rxCount + bytes.length }

/-- The loop `while (p_eol == NULL)` (`atchannel.c:373-408`). -/
def RxState.readLoop : Nat → RxState → Except RxFault (Option (List Cell) × RxState)
  | 0, _ => .error .outOfFuel
  | fuel + 1, st => do
      let st := if maxAtResponse - st.pRead = 0 then st.reset else st
      match readFd (maxAtResponse - st.pRead) st.fd with
      | .ended fd => return (none, { st with fd := fd })
      | .data bytes fd =>
          let st ← st.receive bytes fd
          let cur ← advance isNewline st.buf st.cur
          let st := { st with cur := cur }
          match ← findNextEOL st.buf st.cur with
          | some eol => st.takeLine eol
          | none => st.readLoop fuel

/-- An upper bound for the number of reads. -/
def readFuel : List ReadEvent → Nat
  | [] => 1
  | .chunk bytes :: es => readFuel es + bytes.length + 1
  | _ :: es => readFuel es + 1

/-- `memmove(s_ATBuffer, s_ATBufferCur, len + 1)`. -/
def moveUp (buf : Nat → Cell) (cur len : Nat) : Nat → Cell := blit buf 0 (slice buf cur (cur + len + 1))

/-- `readline` (`atchannel.c:333-419`). -/
def RxState.readline (st : RxState) : Except RxFault (Option (List Cell) × RxState) := do
  if (← load st.buf st.cur) = nul then
    st.reset.readLoop (readFuel st.fd)
  else
    let cur ← advance isNewline st.buf st.cur
    let st := { st with cur := cur }
    match ← findNextEOL st.buf st.cur with
    | some eol => st.takeLine eol
    | none =>
        let nulAt ← advance (fun b => b != nul) st.buf st.cur
        let len := nulAt - st.cur
        let st := { st with buf := moveUp st.buf st.cur len, cur := 0, pRead := len }
        st.readLoop (readFuel st.fd)

/-- What one call of `readline` has returned, with the state it has left. -/
structure Return where
  line : Option (List Cell)
  state : RxState

/-- The text of the line; absent for `NULL`. -/
def Return.text (r : Return) : Option CString := r.line.map fun l => l.map Cell.byte

/-- `n` calls of `readline`. -/
def RxState.readlines : Nat → RxState → Except RxFault (List Return)
  | 0, _ => .ok []
  | n + 1, st => do
      let (line, st) ← st.readline
      let rest ← st.readlines n
      return ⟨line, st⟩ :: rest

end AndroidPatch.Ril.AtChannel
