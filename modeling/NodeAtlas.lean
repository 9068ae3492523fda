import NodeAtlas.Atlas.Address
import NodeAtlas.Atlas.Cluster
import NodeAtlas.Atlas.History
import NodeAtlas.Atlas.Index
import NodeAtlas.Atlas.Node
import NodeAtlas.Atlas.Registry
import NodeAtlas.Atlas.Resolver
import NodeAtlas.Atlas.Trace
import NodeAtlas.Atlas.Watch
import NodeAtlas.Config.Basic
import NodeAtlas.Config.Concealed
import NodeAtlas.Config.Document
import NodeAtlas.Config.Environment
import NodeAtlas.Config.Record
import NodeAtlas.Config.Resolve
import NodeAtlas.Config.Settings
import NodeAtlas.Config.Shown
import NodeAtlas.Config.Tenancy
import NodeAtlas.Credentials
import NodeAtlas.Dict
import NodeAtlas.Dict.Lemmas
import NodeAtlas.Endpoint
import NodeAtlas.Error
import NodeAtlas.Http.Client
import NodeAtlas.Http.Fleet
import NodeAtlas.Http.History
import NodeAtlas.Http.Message
import NodeAtlas.Http.Script
import NodeAtlas.Http.Session
import NodeAtlas.Http.State
import NodeAtlas.Http.Tenants
import NodeAtlas.Http.Trace
import NodeAtlas.Inventory.Basic
import NodeAtlas.Inventory.Record
import NodeAtlas.Json.Basic
import NodeAtlas.Json.Reader
import NodeAtlas.Json.Record
import NodeAtlas.Json.Writer
import NodeAtlas.Net.Address
import NodeAtlas.Net.Domain.Direction
import NodeAtlas.Net.Domain.DirectionTable
import NodeAtlas.Net.Domain.Joiner
import NodeAtlas.Net.Domain.JoiningTable
import NodeAtlas.Net.Domain.Label
import NodeAtlas.Net.Domain.LetterTable
import NodeAtlas.Net.Domain.Punycode
import NodeAtlas.Net.Family
import NodeAtlas.Net.Host
import NodeAtlas.Net.Ipv4
import NodeAtlas.Net.Ipv6
import NodeAtlas.Net.Port
import NodeAtlas.Net.Subnet
import NodeAtlas.Net.Url.Basic
import NodeAtlas.Net.Url.Encoding
import NodeAtlas.Net.Url.Host
import NodeAtlas.NodeId
import NodeAtlas.Pool.Basic
import NodeAtlas.Pool.Connect
import NodeAtlas.Pool.Crowd
import NodeAtlas.Pool.Places
import NodeAtlas.Proofs.Address.Grounds
import NodeAtlas.Proofs.Address.Selection
import NodeAtlas.Proofs.Config.Addresses
import NodeAtlas.Proofs.Config.Concealment
import NodeAtlas.Proofs.Config.Determined
import NodeAtlas.Proofs.Config.Families
import NodeAtlas.Proofs.Config.Overlay
import NodeAtlas.Proofs.Config.Resolution
import NodeAtlas.Proofs.Config.Sections
import NodeAtlas.Proofs.Config.Shown
import NodeAtlas.Proofs.Config.Variables
import NodeAtlas.Proofs.Http.Account
import NodeAtlas.Proofs.Http.Addressing
import NodeAtlas.Proofs.Http.Answers
import NodeAtlas.Proofs.Http.Calls
import NodeAtlas.Proofs.Http.Caller
import NodeAtlas.Proofs.Http.Course
import NodeAtlas.Proofs.Http.Datacenters
import NodeAtlas.Proofs.Http.FirstLogin
import NodeAtlas.Proofs.Http.Heads
import NodeAtlas.Proofs.Http.Places
import NodeAtlas.Proofs.Http.Rejection
import NodeAtlas.Proofs.Http.Renewal
import NodeAtlas.Proofs.Http.Repeats
import NodeAtlas.Proofs.Http.Requests
import NodeAtlas.Proofs.Http.Shutdown
import NodeAtlas.Proofs.Http.SingleFlight
import NodeAtlas.Proofs.Http.Tokens
import NodeAtlas.Proofs.Http.Turns
import NodeAtlas.Proofs.Index.Insert
import NodeAtlas.Proofs.Inventory.Records
import NodeAtlas.Proofs.Json.RoundTrip
import NodeAtlas.Proofs.Machines.Blank
import NodeAtlas.Proofs.Machines.Failures
import NodeAtlas.Proofs.Machines.Find
import NodeAtlas.Proofs.Machines.Moves
import NodeAtlas.Proofs.Net.Authorities
import NodeAtlas.Proofs.Net.BaseUrl
import NodeAtlas.Proofs.Net.Literals
import NodeAtlas.Proofs.Net.Locality
import NodeAtlas.Proofs.Net.Names
import NodeAtlas.Proofs.Net.Partition
import NodeAtlas.Proofs.Net.Pasting
import NodeAtlas.Proofs.Net.References
import NodeAtlas.Proofs.Net.Segments
import NodeAtlas.Proofs.Pool.AllowList
import NodeAtlas.Proofs.Pool.Enumeration
import NodeAtlas.Proofs.Pool.Listing
import NodeAtlas.Proofs.Pool.Manners
import NodeAtlas.Proofs.Pool.Provenance
import NodeAtlas.Proofs.Pool.Retries
import NodeAtlas.Proofs.Pool.Strands
import NodeAtlas.Proofs.Provider.Access
import NodeAtlas.Proofs.Provider.SecretLogin
import NodeAtlas.Proofs.Provider.Texts
import NodeAtlas.Proofs.Registry.Export
import NodeAtlas.Proofs.Registry.Identity
import NodeAtlas.Proofs.Registry.Members
import NodeAtlas.Proofs.Registry.Metadata
import NodeAtlas.Proofs.Registry.Mirror
import NodeAtlas.Proofs.Registry.Names
import NodeAtlas.Proofs.Registry.Operations
import NodeAtlas.Proofs.Registry.Order
import NodeAtlas.Proofs.Registry.Recovery
import NodeAtlas.Proofs.Registry.Spelling
import NodeAtlas.Proofs.Search.Progress
import NodeAtlas.Proofs.Text.Ascii
import NodeAtlas.Proofs.Text.LetterCase
import NodeAtlas.Proofs.Text.LowerCase
import NodeAtlas.Proofs.Text.Quoting
import NodeAtlas.Proofs.Zones.Find
import NodeAtlas.Proofs.Zones.Labels
import NodeAtlas.Proofs.Zones.Rounds
import NodeAtlas.Proofs.Zones.Surveys
import NodeAtlas.Protocol
import NodeAtlas.Protocol.Discipline
import NodeAtlas.Protocol.Length
import NodeAtlas.Protocol.Paths
import NodeAtlas.Protocol.Solo
import NodeAtlas.Protocol.World
import NodeAtlas.Provider
import NodeAtlas.Search.Basic
import NodeAtlas.Search.Machines
import NodeAtlas.Search.Step
import NodeAtlas.Search.Trace
import NodeAtlas.Search.Zones
import NodeAtlas.Secret.Directory
import NodeAtlas.Secret.FileTree
import NodeAtlas.Secret.Manager
import NodeAtlas.Secret.Static
import NodeAtlas.Session.Basic
import NodeAtlas.Session.InMemory
import NodeAtlas.Text.Ascii
import NodeAtlas.Text.Blank
import NodeAtlas.Text.CaseTable
import NodeAtlas.Text.CompositeTable
import NodeAtlas.Text.Composition
import NodeAtlas.Text.LowerCase
import NodeAtlas.Text.MarkTable
import NodeAtlas.Text.Numeral
import NodeAtlas.Text.PrintTable
import NodeAtlas.Text.Quoted
import NodeAtlas.Text.Shown
import NodeAtlas.Trial
import NodeAtlas.Yaml.Cursor
import NodeAtlas.Yaml.Document
import NodeAtlas.Yaml.Node
import NodeAtlas.Yaml.Scalar
import NodeAtlas.Yaml.Token
