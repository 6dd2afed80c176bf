import SparkGateway.Fault

/-!
# Workloads

What a batch is to run: an application file, and settings that may be left open.  The document that is
sent holds the file and every setting that is made, so the defaults of the cluster hold for the rest; a
setting that is made to be zero or an empty text is made all the same.
-/

namespace SparkGateway

/-- What a batch is to run. -/
structure Workload where
  /-- The application file. -/
  file : String
  /-- The main class. -/
  className : Option String := none
  /-- The arguments of the application. -/
  args : List String := []
  /-- Archives of classes. -/
  jars : List String := []
  /-- Modules for an interpreter. -/
  pyFiles : List String := []
  /-- Files for every worker. -/
  files : List String := []
  /-- Archives for every worker. -/
  archives : List String := []
  /-- The memory of the driver. -/
  driverMemory : Option String := none
  /-- The cores of the driver. -/
  driverCores : Option Int := none
  /-- The memory of a worker. -/
  executorMemory : Option String := none
  /-- The cores of a worker. -/
  executorCores : Option Int := none
  /-- How many workers there are. -/
  numExecutors : Option Int := none
  /-- The queue. -/
  queue : Option String := none
  /-- The name of the batch. -/
  name : Option String := none
  /-- On whose behalf the batch runs. -/
  proxyUser : Option String := none
  /-- Further settings, by name. -/
  conf : List (String × String) := []
  deriving DecidableEq, Repr

namespace Workload

/-- A text that may be left open. -/
def textField (name : String) (v : Option String) : List (String × Json) :=
  (v.map fun s => (name, Json.str s)).toList

/-- A count that may be left open. -/
def countField (name : String) (v : Option Int) : List (String × Json) :=
  (v.map fun n => (name, Json.int n)).toList

/-- A list that is left open if it is empty. -/
def listField (name : String) (v : List String) : List (String × Json) :=
  if v.isEmpty then [] else [(name, .arr (v.map .str))]

/-- Settings by name, which are left open if there are none. -/
def confField (name : String) (v : List (String × String)) : List (String × Json) :=
  if v.isEmpty then [] else [(name, .obj (v.map fun p => (p.1, .str p.2)))]

/-- The fields of the document that is sent for a workload. -/
def fields (w : Workload) : Json.Fields :=
  [("file", .str w.file)] ++ textField "className" w.className ++ listField "args" w.args ++
    listField "jars" w.jars ++ listField "pyFiles" w.pyFiles ++ listField "files" w.files ++
    listField "archives" w.archives ++ textField "driverMemory" w.driverMemory ++
    countField "driverCores" w.driverCores ++ textField "executorMemory" w.executorMemory ++
    countField "executorCores" w.executorCores ++ countField "numExecutors" w.numExecutors ++
    textField "queue" w.queue ++ textField "name" w.name ++ textField "proxyUser" w.proxyUser ++
    confField "conf" w.conf

/-- The document that is sent for a workload. -/
def document (w : Workload) : Json := .obj w.fields

/-- A workload that names an application file, or the misuse that it names none. -/
def checked (w : Workload) : Except Misuse Workload :=
  if Text.isBlankText w.file then .error .emptyFile else .ok w

/-- One setting written as `name=value`: the name is trimmed, and the value is everything after the
first equals sign. -/
def confPair (entry : String) : Except Misuse (String × String) :=
  let key := entry.toList.takeWhile fun c => c ≠ '='
  match entry.toList.dropWhile fun c => c ≠ '=' with
  | [] => .error (.pairWithoutValue entry)
  | _ :: value =>
    if key.all Text.isBlank then .error (.pairWithoutKey entry)
    else .ok (String.ofList (Text.trimChars key), String.ofList value)

/-- Writes a setting: a known name keeps its place and takes the new value. -/
def putConf (conf : List (String × String)) (name value : String) : List (String × String) :=
  match conf with
  | [] => [(name, value)]
  | (n, v) :: rest => if n = name then (n, value) :: rest else (n, v) :: putConf rest name value

/-- Settings written as `name=value`; of two with the same name the later counts. -/
def confPairs (entries : List String) : Except Misuse (List (String × String)) :=
  entries.foldlM (fun conf entry => do
    let (name, value) ← confPair entry
    return putConf conf name value) []

end Workload

end SparkGateway
