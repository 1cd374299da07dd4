/-
Settings of the connection over which events are delivered: the servers to try,
the name to go by, how long to wait, and the root of all subjects.
-/

import Enrolment.Policy

namespace Enrolment

open Text

structure Connection where
  servers : List String
  name : String
  connectTimeoutMillis : Nat
  requestTimeoutMillis : Nat
  subjectRoot : String
  deriving DecidableEq

namespace Connection

def defaults : Connection :=
  { servers := ["nats://localhost:4222"]
    name := "cim-registration"
    connectTimeoutMillis := 10000
    requestTimeoutMillis := 5000
    subjectRoot := "registration" }

/-- The entries of a comma-separated list, without blanks around them and
without those that are blank altogether. -/
def serverList (text : String) : List String :=
  (((pieces ',' text.toList).map strip).filter (· ≠ [])).map String.ofList

def load (environment : Environment) : Connection :=
  let servers := ((environment.text? "NATS_URL").map serverList).getD []
  { defaults with
    servers := if servers = [] then defaults.servers else servers
    name := (environment.text? "NATS_CLIENT_NAME").getD defaults.name
    subjectRoot := (environment.text? "REGISTRATION_SUBJECT_ROOT").getD defaults.subjectRoot }

/-- All servers in one text, which is what is dialled. -/
def address (connection : Connection) : String :=
  ",".intercalate connection.servers

end Connection

end Enrolment
