import NodeAtlas.Inventory.Basic
import NodeAtlas.Json.Reader
import NodeAtlas.Json.Record
import NodeAtlas.Json.Writer

/-!
# Inventory records

The JSON form of inventory. Each kind of record has a reader and a writer over the same field names.
-/

namespace NodeAtlas

open Json

/-- Writes a field only if it has something to say. -/
def fieldUnless (absent : Bool) (name : String) (v : Json) : List (String × Json) :=
  if absent then [] else [(name, v)]

namespace Datacenter

/-- The fields in their order. -/
def fields : List FieldNames := [["id"], ["name"], ["endpoint"]]

/-- Reads a datacenter; the endpoint may be missing. -/
def ofJson? (v : Json) : Option Datacenter :=
  match slots? fields v with
  | some [id, name, endpoint] => do
    return ⟨← required asText id, ← required asText name, ← withDefault "" asText endpoint⟩
  | _ => none

/-- Writes a datacenter; an empty endpoint is left out. -/
def toJson (d : Datacenter) : Json :=
  record ([("id", text d.id), ("name", text d.name)] ++
    fieldUnless d.endpoint.isEmpty "endpoint" (text d.endpoint))

end Datacenter

namespace Nic

/-- The fields in their order. -/
def fields : List FieldNames := [["name"], ["ip"]]

/-- Reads a network interface; the address may be missing. -/
def ofJson? (v : Json) : Option Nic :=
  match slots? fields v with
  | some [network, address] => do
    return ⟨← required asText network, ← withDefault "" asText address⟩
  | _ => none

/-- Writes a network interface. -/
def toJson (n : Nic) : Json :=
  record [("name", text n.network), ("ip", text n.address)]

end Nic

namespace Machine

/-- The fields in their order. -/
def fields : List FieldNames :=
  [["uuid"], ["name"], ["nics"], ["cpuNum"], ["memory"], ["guestosLabel"], ["hostId"]]

/-- Reads a machine, of which only UUID and name must be there. -/
def ofJson? (v : Json) : Option Machine :=
  match slots? fields v with
  | some [uuid, name, nics, processors, memory, guestLabel, hostId] => do
    return {
      uuid := ← required asText uuid
      name := ← required asText name
      nics := ← withDefault [] (asList Nic.ofJson?) nics
      processors := ← withDefault 0 asUInt32 processors
      memory := ← withDefault 0 asUInt64 memory
      guestLabel := ← withDefault "" asText guestLabel
      hostId := ← withDefault none asTextOrNull hostId }
  | _ => none

/-- Writes a machine; an absent host is left out. -/
def toJson (m : Machine) : Json :=
  record ([("uuid", text m.uuid), ("name", text m.name), ("nics", array (m.nics.map Nic.toJson)),
    ("cpuNum", natural m.processors.toNat), ("memory", natural m.memory.toNat),
    ("guestosLabel", text m.guestLabel)] ++
    fieldUnless m.hostId.isNone "hostId" (text (m.hostId.getD "")))

end Machine

namespace Host

/-- The fields in their order. -/
def fields : List FieldNames := [["id"], ["hostName"], ["dataCenterId"], ["clusterId"]]

/-- Reads a host, of which only the identifier must be there. -/
def ofJson? (v : Json) : Option Host :=
  match slots? fields v with
  | some [id, name, datacenterId, clusterId] => do
    return ⟨← required asText id, ← withDefault "" asText name,
      ← withDefault "" asText datacenterId, ← withDefault "" asText clusterId⟩
  | _ => none

/-- Writes a host. -/
def toJson (h : Host) : Json :=
  record [("id", text h.id), ("hostName", text h.name), ("dataCenterId", text h.datacenterId),
    ("clusterId", text h.clusterId)]

end Host

namespace Tag

/-- The fields in their order. -/
def fields : List FieldNames := [["name"], ["description"]]

/-- Reads a tag; the description may be missing. -/
def ofJson? (v : Json) : Option Tag :=
  match slots? fields v with
  | some [name, description] => do
    return ⟨← required asText name, ← withDefault "" asText description⟩
  | _ => none

/-- Writes a tag. -/
def toJson (t : Tag) : Json :=
  record [("name", text t.name), ("description", text t.description)]

end Tag

/-- Reads a record from its text. -/
def readRecord? {α : Type} (ofJson? : Json → Option α) (s : String) : Option α :=
  (Json.parse? s).bind ofJson?

end NodeAtlas
