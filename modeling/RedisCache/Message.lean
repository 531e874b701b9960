import RedisCache.AsciiText

set_option autoImplicit false

/- DNS messages as miekg/dns decodes them. Names are in presentation form, which
escapes every octet outside printable ASCII. -/

namespace RedisCache

abbrev Bytes := List UInt8

abbrev Name := AsciiText.Text

structure Question where
  name : Name
  qtype : UInt16
  qclass : UInt16
deriving DecidableEq, Repr

def typeCNAME : UInt16 := 5
def typeSOA : UInt16 := 6
def typeOPT : UInt16 := 41
def typeANY : UInt16 := 255

/-- The record data behind the Go type of a record. The cache reads the MINIMUM
of an SOA and the target of a CNAME; all other content is carried unread. -/
inductive RData
  | soa (minttl : UInt32) (rest : Bytes)
  | cname (target : Name)
  | opt (options : Bytes)
  | other (data : Bytes)
deriving DecidableEq, Repr

def RData.fits : RData → UInt16 → Bool
  | .soa _ _, rrtype => rrtype == typeSOA
  | .cname _, rrtype => rrtype == typeCNAME
  | .opt _, rrtype => rrtype == typeOPT
  | .other _, rrtype => rrtype != typeSOA && rrtype != typeCNAME && rrtype != typeOPT

/-- A resource record. The Go type and the type number of the header agree, as
in every record that `Unpack` or the zone parser builds. -/
structure RR where
  name : Name
  rrtype : UInt16
  rrclass : UInt16
  ttl : UInt32
  rdata : RData
  fits : rdata.fits rrtype = true
deriving DecidableEq, Repr

structure Msg where
  id : UInt16
  response : Bool
  opcode : Nat
  authoritative : Bool
  truncated : Bool
  recursionDesired : Bool
  recursionAvailable : Bool
  zero : Bool
  authenticatedData : Bool
  checkingDisabled : Bool
  rcode : Nat
  question : List Question
  answer : List RR
  ns : List RR
  extra : List RR
deriving DecidableEq, Repr

/-- `new(dns.Msg)`. -/
def Msg.blank : Msg where
  id := 0
  response := false
  opcode := 0
  authoritative := false
  truncated := false
  recursionDesired := false
  recursionAvailable := false
  zero := false
  authenticatedData := false
  checkingDisabled := false
  rcode := 0
  question := []
  answer := []
  ns := []
  extra := []

def RR.isOPT (rr : RR) : Bool := rr.rrtype == typeOPT

/-- `rr.(*dns.CNAME)`: the target, when the record has that Go type. -/
def RR.cname? (rr : RR) : Option Name :=
  match rr.rdata with
  | .cname target => some target
  | _ => none

/-- `rr.(*dns.SOA).Minttl`, for a record whose header says SOA. -/
def RR.minttl (rr : RR) (soa : rr.rrtype = typeSOA) : UInt32 :=
  match data : rr.rdata with
  | .soa minttl _ => minttl
  | .cname _ => absurd rr.fits (by simp [data, soa, RData.fits, typeSOA, typeCNAME])
  | .opt _ => absurd rr.fits (by simp [data, soa, RData.fits, typeSOA, typeOPT])
  | .other _ => absurd rr.fits (by simp [data, soa, RData.fits])

/-- All records of a message in the order the code walks them. -/
def Msg.records (m : Msg) : List RR := m.answer ++ m.ns ++ m.extra

end RedisCache
