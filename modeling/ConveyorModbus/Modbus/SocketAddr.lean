import Mathlib.Algebra.Group.Nat.Defs
import Mathlib.Data.List.Basic

/-!
# Socket addresses

The address of a device is parsed by the standard library: four decimal octets
or an IPv6 address in brackets, then a colon and the port.  The readers below
follow its parser function by function.  An octet has at most three digits and
no leading zero, a port may have any number of zeros in front, host names and
blanks are rejected, and nothing may be left of the text.
-/

namespace ConveyorModbus

structure Ipv4Addr where
  octets : Vector UInt8 4
  deriving DecidableEq, Repr

structure Ipv6Addr where
  groups : Vector UInt16 8
  deriving DecidableEq, Repr

/-- `u16::from_be_bytes` -/
def fromBeBytes (high low : UInt8) : UInt16 :=
  high.toUInt16 * 256 + low.toUInt16

/-- The two groups that an IPv4 address at the end stands for. -/
def Ipv4Addr.groups (ip : Ipv4Addr) : List UInt16 :=
  [fromBeBytes ip.octets[0] ip.octets[1], fromBeBytes ip.octets[2] ip.octets[3]]

def Ipv6Addr.ofGroups (groups : List UInt16) : Ipv6Addr where
  groups := Vector.ofFn (fun i => groups.getD i.val 0)

structure SocketAddrV4 where
  ip : Ipv4Addr
  port : UInt16
  deriving DecidableEq, Repr

structure SocketAddrV6 where
  ip : Ipv6Addr
  port : UInt16
  scopeId : UInt32
  deriving DecidableEq, Repr

inductive SocketAddr where
  | v4 (addr : SocketAddrV4)
  | v6 (addr : SocketAddrV6)
  deriving DecidableEq, Repr

/-- What a reader takes from the front of the text, and the rest of it. -/
abbrev AddrReader (A : Type) : Type := List Char -> Option (A × List Char)

namespace AddrReader

/-!
## Characters and numbers
-/

def readGivenChar (target : Char) : AddrReader Unit
  | [] => none
  | c :: rest => if c = target then some ((), rest) else none

/-- `char::to_digit` -/
def toDigit (radix : Nat) (c : Char) : Option Nat :=
  let value :=
    if c.isDigit then some (c.toNat - '0'.toNat)
    else if 'a' ≤ c ∧ c ≤ 'z' then some (10 + (c.toNat - 'a'.toNat))
    else if 'A' ≤ c ∧ c ≤ 'Z' then some (10 + (c.toNat - 'A'.toNat))
    else none
  value.filter (fun digit => digit < radix)

def readDigits (radix : Nat) : List Char -> List Nat × List Char
  | [] => ([], [])
  | c :: rest =>
      match toDigit radix c with
      | some digit =>
          let (digits, rest) := readDigits radix rest
          (digit :: digits, rest)
      | none => ([], c :: rest)

/-- A number below `bound`, the first value its type does not have. -/
def readNumber (radix : Nat) (maxDigits : Option Nat) (allowZeroPrefix : Bool)
    (bound : Nat) : AddrReader Nat := fun text =>
  let (digits, rest) := readDigits radix text
  let result := digits.foldl (fun result digit => radix * result + digit) 0
  let hasLeadingZero := text.head? == some '0'
  if maxDigits.any (fun max => max < digits.length) then none
  else if digits.length = 0 then none
  else if !allowZeroPrefix && hasLeadingZero && 1 < digits.length then none
  else if bound ≤ result then none
  else some (result, rest)

def readSeparator {A : Type} (sep : Char) (index : Nat) (inner : AddrReader A) :
    AddrReader A := fun text =>
  if index = 0 then inner text
  else
    match readGivenChar sep text with
    | some ((), rest) => inner rest
    | none => none

/-!
## Addresses
-/

def readOctet (index : Nat) : AddrReader UInt8 := fun text => do
  let (octet, rest) <-
    readSeparator '.' index (readNumber 10 (some 3) false 256) text
  some (octet.toUInt8, rest)

def readIpv4Addr : AddrReader Ipv4Addr := fun text => do
  let (a, text) <- readOctet 0 text
  let (b, text) <- readOctet 1 text
  let (c, text) <- readOctet 2 text
  let (d, text) <- readOctet 3 text
  some ({ octets := #v[a, b, c, d] }, text)

/-- At most `limit` more groups; the flag tells of an IPv4 address at the
end. -/
def readGroups : (limit : Nat) -> (groups : List UInt16) -> List Char ->
    (List UInt16 × Bool) × List Char
  | 0, groups, text => ((groups, false), text)
  | limit + 1, groups, text =>
      let ipv4 :=
        if 0 < limit then readSeparator ':' groups.length readIpv4Addr text
        else none
      match ipv4 with
      | some (ip, rest) => ((groups ++ ip.groups, true), rest)
      | none =>
          match readSeparator ':' groups.length
            (readNumber 16 (some 4) true 65536) text with
          | some (group, rest) =>
              readGroups limit (groups ++ [group.toUInt16]) rest
          | none => ((groups, false), text)

def readIpv6Addr : AddrReader Ipv6Addr := fun text =>
  let ((head, headIpv4), text) := readGroups 8 [] text
  if head.length = 8 then some (Ipv6Addr.ofGroups head, text)
  -- the IPv4 part is not allowed before `::`
  else if headIpv4 then none
  else do
    let (_, text) <- readGivenChar ':' text
    let (_, text) <- readGivenChar ':' text
    let limit := 8 - (head.length + 1)
    let ((tail, _), text) := readGroups limit [] text
    let zeros := List.replicate (8 - tail.length - head.length) 0
    some (Ipv6Addr.ofGroups (head ++ zeros ++ tail), text)

def readPort : AddrReader UInt16 := fun text => do
  let (_, text) <- readGivenChar ':' text
  let (port, text) <- readNumber 10 none true 65536 text
  some (port.toUInt16, text)

def readScopeId : AddrReader UInt32 := fun text => do
  let (_, text) <- readGivenChar '%' text
  let (scopeId, text) <- readNumber 10 none true 4294967296 text
  some (scopeId.toUInt32, text)

def readSocketAddrV4 : AddrReader SocketAddrV4 := fun text => do
  let (ip, text) <- readIpv4Addr text
  let (port, text) <- readPort text
  some ({ ip, port }, text)

def readSocketAddrV6 : AddrReader SocketAddrV6 := fun text => do
  let (_, text) <- readGivenChar '[' text
  let (ip, text) <- readIpv6Addr text
  let (scopeId, text) := (readScopeId text).getD (0, text)
  let (_, text) <- readGivenChar ']' text
  let (port, text) <- readPort text
  some ({ ip, port, scopeId }, text)

def readSocketAddr : AddrReader SocketAddr := fun text =>
  match readSocketAddrV4 text with
  | some (addr, rest) => some (.v4 addr, rest)
  | none =>
      (readSocketAddrV6 text).map (fun (addr, rest) => (.v6 addr, rest))

end AddrReader

/-- `SocketAddr::from_str` -/
def SocketAddr.fromStr (text : String) : Option SocketAddr :=
  match AddrReader.readSocketAddr text.toList with
  | some (addr, []) => some addr
  | _ => none

/-!
## Addresses as they are written
-/

def Ipv4Addr.text (ip : Ipv4Addr) : List Char :=
  Nat.toDigits 10 ip.octets[0].toNat ++ '.' ::
    (Nat.toDigits 10 ip.octets[1].toNat ++ '.' ::
      (Nat.toDigits 10 ip.octets[2].toNat ++ '.' ::
        Nat.toDigits 10 ip.octets[3].toNat))

/-- `ip:port` -/
def SocketAddrV4.toString (addr : SocketAddrV4) : String :=
  String.ofList (addr.ip.text ++ ':' :: Nat.toDigits 10 addr.port.toNat)

namespace AddrReader

def NumberEnds (text : List Char) : Prop :=
  forall c, text.head? = some c -> toDigit 10 c = none

theorem toDigit_ten {c : Char} (h : c.isDigit = true) :
    toDigit 10 c = some (c.toNat - '0'.toNat) := by
  have hrange := (Char.isDigit_iff_toNat (c := c)).mp h
  have hnine : '9'.toNat = '0'.toNat + 9 := rfl
  have hlt : c.toNat - '0'.toNat < 10 := by omega
  simp only [toDigit, h, if_true, Option.filter, hlt, decide_true]

theorem readDigits_append (digits : List Char) {rest : List Char}
    (hdigits : forall c, c ∈ digits -> c.isDigit = true)
    (hrest : NumberEnds rest) :
    readDigits 10 (digits ++ rest) =
      (digits.map (fun c => c.toNat - '0'.toNat), rest) := by
  induction digits with
  | nil =>
      cases rest with
      | nil => rfl
      | cons c rest =>
          simp only [List.nil_append, readDigits, hrest c rfl, List.map_nil]
  | cons c digits ih =>
      have htail := ih (fun d hd => hdigits d (List.mem_cons_of_mem c hd))
      simp only [List.cons_append, readDigits,
        toDigit_ten (hdigits c List.mem_cons_self), htail, List.map_cons]

theorem head_toDigits {n : Nat} (hn : 10 ≤ n) :
    (Nat.toDigits 10 n).head? ≠ some '0' := by
  induction n using Nat.strongRecOn with
  | ind n ih =>
      have hdigit : forall m, m < 10 -> 0 < m -> Nat.digitChar m ≠ '0' := by
        decide
      rw [Nat.toDigits_of_base_le (by omega) hn, List.head?_append]
      by_cases hmore : 10 ≤ n / 10
      · have hhead := ih (n / 10) (by omega) hmore
        cases hfirst : (Nat.toDigits 10 (n / 10)).head? with
        | none => simp at hfirst
        | some c =>
            rw [hfirst] at hhead
            exact hhead
      · rw [Nat.toDigits_of_lt_base (by omega)]
        intro hzero
        exact hdigit (n / 10) (by omega) (by omega) (Option.some.inj hzero)

theorem readNumber_toDigits {n bound : Nat} (maxDigits : Option Nat)
    (allowZeroPrefix : Bool) {rest : List Char} (hrest : NumberEnds rest)
    (hbound : n < bound)
    (hmax : forall max, maxDigits = some max -> 0 < max ∧ n < 10 ^ max) :
    readNumber 10 maxDigits allowZeroPrefix bound (Nat.toDigits 10 n ++ rest) =
      some (n, rest) := by
  have hread := readDigits_append (Nat.toDigits 10 n)
    (fun c => Nat.isDigit_of_mem_toDigits (by omega) (by omega)) hrest
  have hvalue : ((Nat.toDigits 10 n).map (fun c => c.toNat - '0'.toNat)).foldl
      (fun result digit => 10 * result + digit) 0 = n := by
    rw [List.foldl_map]
    exact Nat.ofDigitChars_ten_toDigits
  have hshort : (maxDigits.any
      (fun max => max < (Nat.toDigits 10 n).length)) = false := by
    cases maxDigits with
    | none => rfl
    | some max =>
        rcases hmax max rfl with ⟨hpos, hlt⟩
        have hle := (Nat.length_toDigits_le_iff (by omega) hpos).mpr hlt
        simpa using hle
  have hpos := Nat.length_toDigits_pos (b := 10) (n := n)
  have hplain : (!allowZeroPrefix &&
      (Nat.toDigits 10 n ++ rest).head? == some '0' &&
        decide (1 < (Nat.toDigits 10 n).length)) = false := by
    by_cases hlt : n < 10
    · rw [Nat.toDigits_of_lt_base hlt]
      simp
    · have hhead := head_toDigits (Nat.le_of_not_lt hlt)
      rw [List.head?_append_of_ne_nil _ Nat.toDigits_ne_nil, beq_false_of_ne hhead]
      simp
  simp only [readNumber, hread, hvalue, List.length_map, hshort, hplain,
    Nat.ne_of_gt hpos, Nat.not_le_of_lt hbound, if_false, Bool.false_eq_true]

theorem numberEnds_nil : NumberEnds [] := by
  intro c hc
  cases hc

theorem numberEnds_cons {c : Char} (hc : toDigit 10 c = none)
    (rest : List Char) : NumberEnds (c :: rest) := by
  intro d hd
  rw [<- Option.some.inj hd]
  exact hc

theorem readOctet_zero (octet : UInt8) {rest : List Char}
    (hrest : NumberEnds rest) :
    readOctet 0 (Nat.toDigits 10 octet.toNat ++ rest) = some (octet, rest) := by
  have hlt := octet.toNat_lt
  have hnumber := readNumber_toDigits (some 3) false hrest hlt
    (fun max hmax => by cases hmax; omega)
  simp [readOctet, readSeparator, hnumber]

theorem readOctet_succ (index : Nat) (octet : UInt8) {rest : List Char}
    (hrest : NumberEnds rest) :
    readOctet (index + 1) ('.' :: (Nat.toDigits 10 octet.toNat ++ rest)) =
      some (octet, rest) := by
  have hnumber := readOctet_zero octet hrest
  simpa [readOctet, readSeparator, readGivenChar] using hnumber

theorem octets_eq (octets : Vector UInt8 4) :
    #v[octets[0], octets[1], octets[2], octets[3]] = octets := by
  ext i hi
  rcases i with _ | _ | _ | _ | i
  · rfl
  · rfl
  · rfl
  · rfl
  · omega

theorem readIpv4Addr_text (ip : Ipv4Addr) {rest : List Char}
    (hrest : NumberEnds rest) :
    readIpv4Addr (ip.text ++ rest) = some (ip, rest) := by
  have hdot := numberEnds_cons (show toDigit 10 '.' = none by decide)
  have hfirst := fun rest => readOctet_zero ip.octets[0] (hdot rest)
  have hsecond := fun rest => readOctet_succ 0 ip.octets[1] (hdot rest)
  have hthird := fun rest => readOctet_succ 1 ip.octets[2] (hdot rest)
  have hfourth := readOctet_succ 2 ip.octets[3] hrest
  simp only [readIpv4Addr, Ipv4Addr.text, List.append_assoc, List.cons_append,
    hfirst, hsecond, hthird, hfourth, octets_eq, Option.bind_eq_bind,
    Option.bind_some]

theorem readPort_toDigits (port : UInt16) :
    readPort (':' :: Nat.toDigits 10 port.toNat) = some (port, []) := by
  have hnumber := readNumber_toDigits none true numberEnds_nil port.toNat_lt
    (fun _ hmax => nomatch hmax)
  rw [List.append_nil] at hnumber
  simp [readPort, readGivenChar, hnumber]

end AddrReader

/-- Every `ip:port` is parsed to itself. -/
theorem SocketAddr.fromStr_toString (addr : SocketAddrV4) :
    SocketAddr.fromStr addr.toString = some (.v4 addr) := by
  have hip := AddrReader.readIpv4Addr_text addr.ip
    (AddrReader.numberEnds_cons (show AddrReader.toDigit 10 ':' = none by decide)
      (Nat.toDigits 10 addr.port.toNat))
  have hport := AddrReader.readPort_toDigits addr.port
  simp only [fromStr, SocketAddrV4.toString, String.toList_ofList,
    AddrReader.readSocketAddr, AddrReader.readSocketAddrV4, hip, hport,
    Option.bind_eq_bind, Option.bind_some]

end ConveyorModbus
