import NodeCapture.Text.Case
import NodeCapture.Text.Quoted

/-!
# Transports and application protocols

    An application protocol stands for a port and for the transports that it is served
    over.
-/

namespace NodeCapture

/-- A transport layer protocol that filters know. -/
inductive Transport where
  | tcp
  | udp
  deriving DecidableEq

instance : Named Transport where
  title := "TransportProtocol"
  values := [.tcp, .udp]
  name
    | .tcp => "tcp"
    | .udp => "udp"

/-- A set of transports. -/
structure TransportSet where
  tcp : Bool := false
  udp : Bool := false
  deriving DecidableEq

namespace TransportSet

/-- No transport. -/
def empty : TransportSet := ⟨false, false⟩

/-- Puts a transport into a set. -/
def insert (s : TransportSet) : Transport → TransportSet
  | .tcp => { s with tcp := true }
  | .udp => { s with udp := true }

/-- The transports of a list. -/
def ofList (ts : List Transport) : TransportSet := ts.foldl insert empty

/-- Whether a transport is in a set. -/
def contains (s : TransportSet) : Transport → Bool
  | .tcp => s.tcp
  | .udp => s.udp

/-- The names of the transports of a set in alphabetical order. -/
def names (s : TransportSet) : List String :=
  (if s.tcp then ["tcp"] else []) ++ (if s.udp then ["udp"] else [])

end TransportSet

/-- An application layer protocol with a well-known port. -/
inductive AppProtocol where
  | http | https | dns | ssh | ftp | smtp | ntp | snmp | ldap | mysql | postgresql | redis
  | kafka | etcd
  deriving DecidableEq

instance : Named AppProtocol where
  title := "ApplicationProtocol"
  values :=
    [.http, .https, .dns, .ssh, .ftp, .smtp, .ntp, .snmp, .ldap, .mysql, .postgresql, .redis,
      .kafka, .etcd]
  name
    | .http => "HTTP"
    | .https => "HTTPS"
    | .dns => "DNS"
    | .ssh => "SSH"
    | .ftp => "FTP"
    | .smtp => "SMTP"
    | .ntp => "NTP"
    | .snmp => "SNMP"
    | .ldap => "LDAP"
    | .mysql => "MySQL"
    | .postgresql => "PostgreSQL"
    | .redis => "Redis"
    | .kafka => "Kafka"
    | .etcd => "etcd"

namespace AppProtocol

/-- The port of a protocol. -/
def port : AppProtocol → Int
  | .http => 80
  | .https => 443
  | .dns => 53
  | .ssh => 22
  | .ftp => 21
  | .smtp => 25
  | .ntp => 123
  | .snmp => 161
  | .ldap => 389
  | .mysql => 3306
  | .postgresql => 5432
  | .redis => 6379
  | .kafka => 9092
  | .etcd => 2379

/-- The transports of a protocol. -/
def transports : AppProtocol → TransportSet
  | .dns | .ldap => ⟨true, true⟩
  | .ntp | .snmp => ⟨false, true⟩
  | _ => ⟨true, false⟩

/-- A protocol name that is not known. -/
structure Unknown where
  name : String
  deriving DecidableEq

/-- The wording of the error. -/
def Unknown.message (e : Unknown) : String := "Unknown application protocol: " ++ e.name

/-- Looks a protocol up by its name in any case. No name or an empty one asks for none. -/
def lookup (name : Option String) : Except Unknown (Option AppProtocol) :=
  match name with
  | none => .ok none
  | some text =>
    if text.isEmpty then .ok none
    else
      match (Named.values : List AppProtocol).find?
        (fun p => lower (Named.name p) == lower text) with
      | some p => .ok (some p)
      | none => .error ⟨text⟩

end AppProtocol

end NodeCapture
