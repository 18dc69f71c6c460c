import ShopRelay.Dict
import ShopRelay.Http.Chunks
import ShopRelay.Http.Url

/-!
Requests, and responses as they arrive: a head and a body whose end is given by a length, by chunks
or by the end of the connection.
-/

namespace ShopRelay.Http

open Text (Bytes)

inductive Method where
  | get
  | post
deriving DecidableEq, Repr

def Method.name : Method → String
  | .get => "GET"
  | .post => "POST"

structure Request where
  url : Url
  method : Method
  headers : Dict String
  body : String
deriving DecidableEq

structure Response where
  status : Nat
  headers : Headers
  /-- None when it broke off. -/
  body : Option Bytes
deriving DecidableEq

/-- What the outside world does with a request. -/
inductive Reply where
  /-- Nothing listens at the address. -/
  | refused
  /-- The request was taken, but no response came of it. -/
  | lost
  | response (r : Response)
deriving DecidableEq

namespace Response

def isRedirect (r : Response) : Bool := [301, 302, 303, 307, 308].contains r.status

def isSuccess (r : Response) : Bool := 200 ≤ r.status && r.status < 300

def header? (r : Response) (name : String) : Option Bytes := r.headers.lookup name

/-- How the end of a body is found. -/
inductive Framing where
  | sized (length : Nat)
  | chunked
  | untilClose
deriving DecidableEq, Repr

/-- Bytes of visible ASCII, blanks and tabs. -/
def isVisible (bs : Bytes) : Bool := bs.all fun b => b == 9 || (32 ≤ b && b < 127)

/-- The parts of a value between commas. -/
def parts (value : Bytes) : List Bytes := (value.splitOn 44).map Head.trim

/-- The last of the encodings, which is the outermost one, is that of chunks. -/
def isChunked (encodings : List Bytes) : Bool :=
  encodings.getLast?.any fun last =>
    isVisible last && (parts last).getLast?.any (Head.lower · == "chunked")

/-- The two largest numbers of 64 bits are no lengths. -/
def maxLength : Nat := UInt64.size - 3

/-- The length that all values and all their parts give. -/
def length? (values : List Bytes) : Option Nat := do
  guard (values.all isVisible)
  let lengths := values.flatMap parts
  guard (lengths.all fun l => !l.isEmpty && l.all Head.isDigit)
  let n ← lengths.head?.map Head.number
  guard (n ≤ maxLength && lengths.all (Head.number · = n))
  return n

/-- How the body after a head ends; none when the head contradicts itself. An encoding goes before
a length, and the older version has none. -/
def framing? (h : Head) : Option Framing :=
  let encodings := h.values "transfer-encoding"
  let lengths := h.values "content-length"
  if h.status == 101 || h.status == 204 || h.status == 304 then some (.sized 0)
  else if !encodings.isEmpty then
    if h.version = .http10 then none
    else some (if isChunked encodings then .chunked else .untilClose)
  else if !lengths.isEmpty then (length? lengths).map .sized
  else some .untilClose

/-- The body at the front of the bytes that come before the connection ends. -/
def body? (bs : Bytes) : Framing → Option Bytes
  | .sized n => if n ≤ bs.length then some (bs.take n) else none
  | .chunked => Chunks.content? bs
  | .untilClose => some bs

/-- The response that some bytes hold before the connection ends. -/
def ofBytes? (bs : Bytes) : Option Response := do
  let (head, rest) ← Head.final? bs
  let framing ← framing? head
  return ⟨head.status, head.headers, body? rest framing⟩

end Response

def Reply.ofBytes (bs : Bytes) : Reply :=
  match Response.ofBytes? bs with
  | some r => .response r
  | none => .lost

end ShopRelay.Http
