/-
# DialSelect.Record -- the address records of a network

`Network.Record n` is the type of the addresses of network `n`, so a collection
of candidates can never mix networks: a selection over `n` is a function on
lists of `n.Record`.  Each record has a text, is read from a trimmed text, and
has an IP address unless the network is the local one.
-/
import DialSelect.Network
import DialSelect.Socket
import DialSelect.SocketPath
import DialSelect.ZonedIp

namespace DialSelect

set_option autoImplicit false

def Network.Record : Network → Type
  | .tcp => Socket
  | .udp => Socket
  | .ip => ZonedIp
  | .unix => SocketPath

/-- Two records are one value when they were written alike; whether they are the
same address is `Record.same`. -/
instance Network.decidableEqRecord : (network : Network) → DecidableEq network.Record
  | .tcp => inferInstanceAs (DecidableEq Socket)
  | .udp => inferInstanceAs (DecidableEq Socket)
  | .ip => inferInstanceAs (DecidableEq ZonedIp)
  | .unix => inferInstanceAs (DecidableEq SocketPath)

inductive AddressFault where
  | notASocket
  | zoned (fault : ZonedIp.Fault)
  deriving DecidableEq, Repr

def AddressFault.message : AddressFault → String
  | .notASocket => "invalid socket address syntax"
  | .zoned .notAnIp => "invalid IP address syntax"
  | .zoned .emptyZone => "empty zone"
  | .zoned .zoneOnIpv4 => "zones are only valid for IPv6"

/-- Why a candidate was refused: it is empty, or its trimmed text is not an
address of the network. -/
inductive AddressError where
  | empty (network : Network)
  | invalid (network : Network) (text : String) (fault : AddressFault)
  deriving DecidableEq, Repr

def AddressError.message : AddressError → String
  | .empty network => "Empty " ++ network.name ++ " address"
  | .invalid network text fault =>
      "Invalid " ++ network.name ++ " address '" ++ text ++ "': " ++ fault.message

namespace Record

def readSocket (network : Network) (text : List Char) : Except AddressError Socket :=
  if text.isEmpty then .error (.empty network)
  else
    match Socket.read? text with
    | some socket => .ok socket
    | none => .error (.invalid network (String.ofList text) .notASocket)

def readZonedIp (text : List Char) : Except AddressError ZonedIp :=
  if text.isEmpty then .error (.empty .ip)
  else
    match ZonedIp.read text with
    | .ok record => .ok record
    | .error fault => .error (.invalid .ip (String.ofList text) (.zoned fault))

def readSocketPath (text : List Char) : Except AddressError SocketPath :=
  match SocketPath.read? text with
  | some path => .ok path
  | none => .error (.empty .unix)

/-- Read a record of a network from a text with blanks around it. -/
def read (network : Network) (text : String) : Except AddressError network.Record :=
  let trimmed := Text.trim text.toList
  match network with
  | .tcp => readSocket .tcp trimmed
  | .udp => readSocket .udp trimmed
  | .ip => readZonedIp trimmed
  | .unix => readSocketPath trimmed

/-- Read every candidate in order; the first one refused decides. -/
def readAll (network : Network) (texts : List String) :
    Except AddressError (List network.Record) :=
  texts.mapM (read network)

def print : (network : Network) → network.Record → String
  | .tcp, socket => String.ofList (Socket.print socket)
  | .udp, socket => String.ofList (Socket.print socket)
  | .ip, record => String.ofList (ZonedIp.print record)
  | .unix, record => SocketPath.path record

/-- The IP address of a record, without port, scope or zone. -/
def ip? : (network : Network) → network.Record → Option Ip
  | .tcp, socket => some (Socket.ip socket)
  | .udp, socket => some (Socket.ip socket)
  | .ip, record => some (ZonedIp.ip record)
  | .unix, _ => none

/-- The octets of a record's address; none without an address. -/
def octets (network : Network) (record : network.Record) : List UInt8 :=
  match ip? network record with
  | some ip => ip.octets
  | none => []

def family? (network : Network) (record : network.Record) : Option Family :=
  (ip? network record).map Ip.family

/-- Two records of a network are the same address: local sockets when their paths
agree by components, all others when they are equal. -/
def same : (network : Network) → network.Record → network.Record → Bool
  | .unix, x, y => SocketPath.same x y
  | .tcp, x, y => decide (x = y)
  | .udp, x, y => decide (x = y)
  | .ip, x, y => decide (x = y)

/-- Two collections are the same when they agree record by record. -/
def sameAll (network : Network) : List network.Record → List network.Record → Bool
  | [], [] => true
  | x :: xs, y :: ys => same network x y && sameAll network xs ys
  | _, _ => false

theorem isSome_family? (network : Network) (record : network.Record) :
    (family? network record).isSome = network.hasIp := by
  cases network <;> rfl

theorem family?_isSome {network : Network} (ip : network.hasIp) (record : network.Record) :
    (family? network record).isSome := by
  rw [isSome_family?, ip]

theorem family?_eq_none {network : Network} (noIp : network.hasIp = false)
    (record : network.Record) : family? network record = none := by
  rw [← Option.isNone_iff_eq_none, ← Option.not_isSome, isSome_family?, noIp]
  rfl

theorem ofOctetCount?_octets (network : Network) (record : network.Record) :
    Family.ofOctetCount? (octets network record).length = family? network record := by
  unfold octets family?
  cases ip? network record with
  | none => rfl
  | some ip =>
      rw [Option.map_some, Family.ofOctetCount?_eq_some_iff]
      exact ip.length_octets

end Record

end DialSelect
