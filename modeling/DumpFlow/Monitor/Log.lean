import DumpFlow.Schema.Database
import DumpFlow.Json.Writer

/-!
A monitor that writes each event to a log. The event data of a record are compact JSON text with
the members of every object in the order of their keys.
-/

namespace DumpFlow

inductive LogLevel where
  | trace
  | debug
  | info
  | warn
  | error
  deriving DecidableEq, Repr

namespace LogLevel

def all : List LogLevel := [trace, debug, info, warn, error]

def name : LogLevel → String
  | trace => "TRACE"
  | debug => "DEBUG"
  | info => "INFO"
  | warn => "WARN"
  | error => "ERROR"

end LogLevel

/-- What a record says of an event besides its message. -/
structure EventDetails where
  type : String
  label : String
  data : String
  deriving DecidableEq, Repr

structure LogRecord where
  level : LogLevel
  message : String
  details : Option EventDetails
  deriving DecidableEq, Repr

structure LogMonitor where
  level : LogLevel
  deriving DecidableEq, Repr

namespace LogMonitor

def standard : LogMonitor := ⟨.info⟩

instance : Inhabited LogMonitor := ⟨standard⟩

/-- Events are logged as debugging or as information, nothing else. -/
def eventLevel (m : LogMonitor) : LogLevel :=
  if m.level = .debug then .debug else .info

def eventRecord (m : LogMonitor) (type label : String) (data : List (String × Json.Value)) :
    LogRecord :=
  ⟨m.eventLevel, "Dump event: " ++ type, some ⟨type, label, (Json.Value.object data).render⟩⟩

/-- The information on a target with its members in the order of their keys. The columns of a table
are so already. -/
def orderedInfo (info : DumpInfo) : Json.Value :=
  match info.encode with
  | .object members => .object (Dictionary.ofList members).entries
  | v => v

def record (m : LogMonitor) : MonitorEvent → LogRecord
  | .verbose message => ⟨.debug, message, none⟩
  | .info label info destination =>
    m.eventRecord "dump.info" label
      [("destination", .text destination.text), ("info", orderedInfo info)]
  | .start label destination =>
    m.eventRecord "dump.start" label [("destination", .text destination.text)]
  | .file label file => m.eventRecord "dump.file" label [("file", .text file.text)]
  | .finish label destination =>
    m.eventRecord "dump.finish" label [("destination", .text destination.text)]

end LogMonitor

end DumpFlow
