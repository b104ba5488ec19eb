import QueryRouting.Address.IpText

/-!
# Endpoints

An internet address with a port.  Endpoints are ordered by family, then by
address, then by port; the rank is one number that carries the whole order, so the
order is total and two endpoints of one rank are equal.

A socket address of 128 bits has a flow label and a scope besides.  They are not
represented: every endpoint stands for the socket address that has both of them zero,
as every address has that is made from an internet address and a port.

## Main definitions

* `Endpoint` — an address and a port.
* `Endpoint.rank` — the place of an endpoint in the order.
* `Endpoint.render`, `Endpoint.parse?` — the text, as in `10.0.0.1:9042` and `[::1]:9042`.

## Main results

* `Endpoint.rank_injective` — the rank names its endpoint.
-/

namespace QueryRouting

/-- An internet address with a port, without a flow label or a scope. -/
structure Endpoint where
  ip : Ip
  port : UInt16
  deriving DecidableEq, Repr

namespace Endpoint

/-- The port that a host listens on unless another is named. -/
def defaultPort : UInt16 := 9042

/-- The place of an endpoint in the order: every endpoint of 32 bits comes before
every one of 128 bits. -/
def rank (e : Endpoint) : Nat :=
  match e.ip with
  | .v4 n => n.toNat * 65536 + e.port.toNat
  | .v6 n => 281474976710656 + n.toNat * 65536 + e.port.toNat

/-- The rank names its endpoint. -/
theorem rank_injective {d e : Endpoint} (h : d.rank = e.rank) : d = e := by
  obtain ⟨dip, dport⟩ := d
  obtain ⟨eip, eport⟩ := e
  have hd := dport.toNat_lt
  have he := eport.toNat_lt
  cases dip with
  | v4 m =>
    have hm := m.isLt
    cases eip with
    | v4 n =>
      simp only [rank] at h
      have hport : dport = eport := UInt16.toNat.inj (by omega)
      have hip : m = n := BitVec.eq_of_toNat_eq (by omega)
      rw [hport, hip]
    | v6 n =>
      -- A rank of the first family is below `2 ^ 48`, one of the second is not.
      simp only [rank] at h
      omega
  | v6 m =>
    cases eip with
    | v4 n =>
      have hn := n.isLt
      simp only [rank] at h
      omega
    | v6 n =>
      simp only [rank] at h
      have hport : dport = eport := UInt16.toNat.inj (by omega)
      have hip : m = n := BitVec.eq_of_toNat_eq (by omega)
      rw [hport, hip]

/-- The text of an endpoint. -/
def render (e : Endpoint) : String :=
  match e.ip with
  | .v4 _ => e.ip.render ++ ":" ++ toString e.port.toNat
  | .v6 _ => "[" ++ e.ip.render ++ "]:" ++ toString e.port.toNat

instance : ToString Endpoint := ⟨render⟩

/-- The parts of a text before and after its last occurrence of a character. -/
def splitAtLast? (separator : Char) (cs : List Char) : Option (List Char × List Char) :=
  match cs.reverse.dropWhile (· ≠ separator) with
  | [] => none
  | _ :: front => some (front.reverse, (cs.reverse.takeWhile (· ≠ separator)).reverse)

/-- The number of an address without and with brackets, by family. -/
def parseIp? : List Char → Option Ip
  | '[' :: cs =>
    match cs.reverse with
    | ']' :: inner => (Ip.parseV6? inner.reverse).map fun n => .v6 (BitVec.ofNat 128 n)
    | _ => none
  | cs => (Ip.parseV4? cs).map fun n => .v4 (BitVec.ofNat 32 n)

/-- The endpoint of a text. -/
def parse? (s : String) : Option Endpoint := do
  let (front, back) ← splitAtLast? ':' s.toList
  let ip ← parseIp? front
  let port ← Numeral.readBelow? 65536 back
  return ⟨ip, UInt16.ofNat port⟩

end Endpoint

end QueryRouting
