import Upkeep.Key.Armour
import Upkeep.Key.Der

/-!
The layout of OpenSSH private keys: a public key and, after it, a section with the same key once
more, the numbers that make up its private half, a comment, and padding. The section may be
encrypted, and is then left alone.
-/

set_option autoImplicit false

namespace Upkeep.Key.OpenSsh

def label : List Char := "OPENSSH PRIVATE KEY".toList

/-- The width of the lines of armoured keys of this kind. -/
def lineWidth : Nat := 70

/-- What a reader gives, and the bytes that are left. -/
abbrev Reader (α : Type) := Bytes → Option (α × Bytes)

def take (n : Nat) : Reader Bytes := fun bs =>
  if n ≤ bs.length then some (bs.take n, bs.drop n) else none

def number : Reader Nat := fun bs => do
  let (digits, bs) ← take 4 bs
  return (bigEndian digits, bs)

def field : Reader Bytes := fun bs => do
  let (n, bs) ← number bs
  take n bs

def text : Reader String := fun bs => do
  let (content, bs) ← field bs
  return (← Bytes.text? content, bs)

def fixed (n : Nat) : Reader Bytes := fun bs => do
  let (content, bs) ← field bs
  if content.length = n then some (content, bs) else none

/-- Whether a number is written without a zero byte that it does not need. -/
def isShortest : Bytes → Bool
  | [0] => false
  | 0 :: b :: _ => 0x80 ≤ b
  | _ => true

def integer : Reader Bytes := fun bs => do
  let (content, bs) ← field bs
  if isShortest content then some (content, bs) else none

def inTurn : List (Reader Bytes) → Reader (List Bytes)
  | [] => fun bs => some ([], bs)
  | part :: parts => fun bs => do
    let (content, bs) ← part bs
    let (contents, bs) ← inTurn parts bs
    return (content :: contents, bs)

/-! ### Kinds of keys -/

/-- An elliptic curve, by the size of its numbers in bytes. -/
structure Curve where
  name : String
  size : Nat

def curves : List Curve := [⟨"nistp256", 32⟩, ⟨"nistp384", 48⟩, ⟨"nistp521", 66⟩]

/-- A point, either compressed or with both coordinates. -/
def Curve.isPoint (c : Curve) : Bytes → Bool
  | tag :: rest =>
    if tag = 4 then rest.length == 2 * c.size
    else (tag = 2 || tag = 3) && rest.length == c.size
  | [] => false

def Curve.point (c : Curve) : Reader Bytes := fun bs => do
  let (name, bs) ← field bs
  let (point, bs) ← field bs
  if name = Bytes.ofString c.name && c.isPoint point then some (point, bs) else none

/-- The private number of a curve, with at most one zero byte before it; only numbers of the
largest curve may be shorter. -/
def Curve.scalar (c : Curve) : Reader Bytes := fun bs => do
  let (content, bs) ← field bs
  let digits := if content.length = c.size + 1 then content.drop 1 else content
  if content.length = c.size + 1 && content.head? != some 0 then none
  else if digits.length = c.size || (c.size = 66 && 63 < digits.length && digits.length < 66) then
    some (digits, bs)
  else none

/-- How the two halves of a kind of key are laid out. -/
structure Layout where
  publicHalf : List (Reader Bytes)
  /-- The public half where it stands before the private one, with its numbers in this order. -/
  repeated : List (Reader Bytes)
  order : List Bytes → List Bytes := id
  privateHalf : List (Reader Bytes)
  /-- Whether the private half agrees with the public one. -/
  agrees : List Bytes → List Bytes → Bool := fun _ _ => true

def layoutOfCurve (c : Curve) : Layout :=
  { publicHalf := [c.point], repeated := [c.point], privateHalf := [c.scalar] }

/-- The flags, the handle and the reserved bytes of a key that a device holds. -/
def deviceHalf : List (Reader Bytes) := [take 1, field, field]

def layout? (algorithm : String) : Option Layout :=
  match algorithm with
  | "ssh-ed25519" =>
    some {
      publicHalf := [fixed 32]
      repeated := [fixed 32]
      privateHalf := [fixed 64]
      agrees := fun halves seeds => halves == seeds.map (List.drop 32) }
  | "ssh-rsa" =>
    some {
      publicHalf := [integer, integer]
      repeated := [integer, integer]
      order := List.reverse
      privateHalf := [integer, integer, integer, integer] }
  | "ssh-dss" =>
    some {
      publicHalf := [integer, integer, integer, integer]
      repeated := [integer, integer, integer, integer]
      privateHalf := [integer] }
  | "sk-ssh-ed25519@openssh.com" =>
    some {
      publicHalf := [fixed 32, field]
      repeated := [fixed 32, field]
      privateHalf := deviceHalf }
  | "sk-ecdsa-sha2-nistp256@openssh.com" =>
    some {
      publicHalf := [Curve.point ⟨"nistp256", 32⟩, field]
      repeated := [Curve.point ⟨"nistp256", 32⟩, field]
      privateHalf := deviceHalf }
  | _ =>
    (curves.find? fun c => "ecdsa-sha2-" ++ c.name = algorithm).map layoutOfCurve

/-! ### Sections -/

structure PublicKey where
  algorithm : String
  parts : List Bytes
  deriving DecidableEq

/-- A public key that takes up all of the bytes. -/
def publicKey? (bs : Bytes) : Option PublicKey := do
  let (algorithm, bs) ← text bs
  let layout ← layout? algorithm
  match ← inTurn layout.publicHalf bs with
  | (parts, []) => some ⟨algorithm, parts⟩
  | _ => none

/-- The unit in which a section that is not encrypted is padded. -/
def blockLength : Nat := 8

/-- Padding counts up from one, and is shorter than a block. -/
def isPadding (bs : Bytes) : Bool :=
  bs.length < blockLength && bs == (List.range bs.length).map fun n => UInt8.ofNat (n + 1)

/-- Whether bytes are the section that goes with a public key. It begins with a number that is
written twice. -/
def isSectionFor (key : PublicKey) (bs : Bytes) : Bool :=
  bs.length % blockLength = 0 && (do
    let (check, bs) ← number bs
    let (again, bs) ← number bs
    let (algorithm, bs) ← text bs
    let layout ← layout? algorithm
    let (parts, bs) ← inTurn layout.repeated bs
    let (secrets, bs) ← inTurn layout.privateHalf bs
    let (_, bs) ← text bs
    return check = again && layout.agrees parts secrets &&
      key = PublicKey.mk algorithm (layout.order parts) && isPadding bs).getD false

/-- The ciphers that a section may be encrypted with: the length of a block, and whether a tag of
sixteen bytes follows the section. -/
def cipher? (name : String) : Option (Nat × Bool) :=
  match name with
  | "aes128-cbc" | "aes192-cbc" | "aes256-cbc" | "aes128-ctr" | "aes192-ctr" | "aes256-ctr" =>
    some (16, false)
  | "aes128-gcm@openssh.com" | "aes256-gcm@openssh.com" => some (16, true)
  | "chacha20-poly1305@openssh.com" => some (8, true)
  | "3des-cbc" => some (8, false)
  | _ => none

/-- Whether the bytes are an encrypted section with its tag. -/
def isEncrypted (block : Nat) (tagged : Bool) (bs : Bytes) : Bool :=
  (do
    let (content, bs) ← field bs
    return content.length % block = 0 && bs.length = if tagged then 16 else 0).getD false

/-- How a passphrase is turned into a key, where there is one. -/
def derivation? (name : String) (options : Bytes) : Option Bool :=
  match name with
  | "none" => if options.isEmpty then some false else none
  | "bcrypt" => do
    let (_, options) ← field options
    let (_, options) ← number options
    if options.isEmpty then some true else none
  | _ => none

def magic : Bytes := Bytes.ofString "openssh-key-v1" ++ [0]

/-- Whether the bytes are a key, and if so, whether it is encrypted. -/
def encrypted? (bs : Bytes) : Option Bool := do
  let bs ← after? magic bs
  let (cipher, bs) ← text bs
  let (derivation, bs) ← text bs
  let (options, bs) ← field bs
  let derived ← derivation? derivation options
  let (count, bs) ← number bs
  if count ≠ 1 then none
  let (blob, bs) ← field bs
  let key ← publicKey? blob
  if cipher = "none" then
    match ← field bs with
    | (content, []) => if !derived && isSectionFor key content then some false else none
    | _ => none
  else
    let (block, tagged) ← cipher? cipher
    if isEncrypted block tagged bs then some true else none

/-- Whether a text is an armoured key, and if so, whether it is encrypted. -/
def encryptedIn? (s : String) : Option Bool := do
  let (found, bs) ← armoured? lineWidth (Text.trim s)
  if found = markBytes label then encrypted? bs else none

end Upkeep.Key.OpenSsh
