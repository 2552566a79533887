import IpldEthServer.Basic

namespace IpldEthServer

/-- A decoded element: `[]byte` or `[]interface{}`. -/
inductive RlpItem where
  | bytes (b : List UInt8)
  | list (items : List RlpItem)
  deriving Repr

inductive RlpError where
  /-- The input ends inside a value. -/
  | unexpectedEOF
  /-- `rlp: non-canonical size information`. -/
  | canonSize
  /-- `rlp: element is larger than containing list`. -/
  | elemTooLarge
  /-- `rlp: value size exceeds available input length`. -/
  | valueTooLarge
  /-- `rlp: expected input list for []interface {}`. -/
  | expectedList
  /-- `rlp: input contains more than one value`. -/
  | moreThanOneValue
  deriving DecidableEq, Repr

inductive RlpKind where
  | byte (b : UInt8)
  | string (size : ℕ)
  | list (size : ℕ)
  deriving DecidableEq, Repr

def RlpKind.size : RlpKind → ℕ
  | .byte _ => 0
  | .string n => n
  | .list n => n

/-- `readUint`: a big-endian size; a leading zero byte is non-canonical. -/
def readSize (n : ℕ) (input : List UInt8) : Except RlpError (ℕ × List UInt8) :=
  if input.length < n then .error .unexpectedEOF
  else if 2 ≤ n ∧ input.head? = some 0 then .error .canonSize
  else .ok ((input.take n).foldl (fun acc b => acc * 256 + b.toNat) 0, input.drop n)

/-- `readKind`: the kind of the next value; a long-form size below 56 is non-canonical. -/
def readKind : List UInt8 → Except RlpError (RlpKind × List UInt8)
  | [] => .error .unexpectedEOF
  | b :: rest =>
    if b < 0x80 then .ok (.byte b, rest)
    else if b < 0xB8 then .ok (.string (b.toNat - 0x80), rest)
    else if b < 0xC0 then
      match readSize (b.toNat - 0xB7) rest with
      | .error e => .error e
      | .ok (size, rest') => if size < 56 then .error .canonSize else .ok (.string size, rest')
    else if b < 0xF8 then .ok (.list (b.toNat - 0xC0), rest)
    else
      match readSize (b.toNat - 0xF7) rest with
      | .error e => .error e
      | .ok (size, rest') => if size < 56 then .error .canonSize else .ok (.list size, rest')

/-- The elements that fill a list payload exactly; `fuel` bounds the nesting. -/
def decodeList : ℕ → List UInt8 → Except RlpError (List RlpItem)
  | _, [] => .ok []
  | 0, _ :: _ => .error .unexpectedEOF
  | fuel + 1, b :: input =>
    match readKind (b :: input) with
    | .error e => .error e
    | .ok (kind, rest) =>
      if rest.length < kind.size then .error .elemTooLarge
      else
        let payload := rest.take kind.size
        let item : Except RlpError RlpItem :=
          match kind with
          | .byte v => .ok (.bytes [v])
          | .string size =>
            if size = 1 ∧ payload.head?.any (· < 0x80) then .error .canonSize
            else .ok (.bytes payload)
          | .list _ => (decodeList fuel payload).map RlpItem.list
        match item, decodeList fuel (rest.drop kind.size) with
        | .error e, _ => .error e
        | .ok _, .error e => .error e
        | .ok v, .ok vs => .ok (v :: vs)

/-- Modelled from the spec (go-ethereum's `rlp`, outside `src/`): `rlp.DecodeBytes(data, &i)` into
`i []interface{}`. -/
def decodeBytes (input : List UInt8) : Except RlpError (List RlpItem) :=
  match readKind input with
  | .error e => .error e
  | .ok (kind, rest) =>
    if rest.length < kind.size then .error .valueTooLarge
    else
      match kind with
      | .list size =>
        match decodeList size (rest.take size) with
        | .error e => .error e
        | .ok items => if size < rest.length then .error .moreThanOneValue else .ok items
      | _ => .error .expectedList

/-- `rlp.DecodeBytes(data, &value)` into `value interface{}`. -/
def decodeValue (input : List UInt8) : Except RlpError RlpItem :=
  match readKind input with
  | .error e => .error e
  | .ok (kind, rest) =>
    if rest.length < kind.size then .error .valueTooLarge
    else
      let payload := rest.take kind.size
      let item : Except RlpError RlpItem :=
        match kind with
        | .byte v => .ok (.bytes [v])
        | .string size =>
          if size = 1 ∧ payload.head?.any (· < 0x80) then .error .canonSize
          else .ok (.bytes payload)
        | .list size => (decodeList size payload).map RlpItem.list
      match item with
      | .error e => .error e
      | .ok v => if kind.size < rest.length then .error .moreThanOneValue else .ok v

end IpldEthServer
