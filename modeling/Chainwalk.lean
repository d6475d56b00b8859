import Chainwalk.Access
import Chainwalk.Chain
import Chainwalk.Class.Basic
import Chainwalk.Class.Hierarchy
import Chainwalk.Command.Basic
import Chainwalk.Command.Script
import Chainwalk.Command.Words
import Chainwalk.Config.Basic
import Chainwalk.Config.Document
import Chainwalk.Console.Basic
import Chainwalk.Console.Options
import Chainwalk.Conversion.Coordinate
import Chainwalk.Conversion.Handler
import Chainwalk.Conversion.Literal
import Chainwalk.Conversion.Plain
import Chainwalk.Conversion.Registry
import Chainwalk.Conversion.Residents
import Chainwalk.Extension.Definition
import Chainwalk.Extension.Recipe
import Chainwalk.Extension.Scripted
import Chainwalk.Fault
import Chainwalk.Json.Basic
import Chainwalk.Json.Decode
import Chainwalk.Json.Printer
import Chainwalk.Json.Token
import Chainwalk.Main
import Chainwalk.Method.Basic
import Chainwalk.Method.Catalog
import Chainwalk.Method.Entities
import Chainwalk.Method.Index
import Chainwalk.Method.Items
import Chainwalk.Method.Plain
import Chainwalk.Method.Worlds
import Chainwalk.Number.Binary
import Chainwalk.Number.Integer
import Chainwalk.Number.Layout
import Chainwalk.Number.Reading
import Chainwalk.Number.Shortest
import Chainwalk.Object.Basic
import Chainwalk.Object.Description
import Chainwalk.Object.Store
import Chainwalk.Object.View
import Chainwalk.Plugin
import Chainwalk.Proofs.Chain.Access
import Chainwalk.Proofs.Chain.Calls
import Chainwalk.Proofs.Chain.Composition
import Chainwalk.Proofs.Chain.Indices
import Chainwalk.Proofs.Chain.Reading
import Chainwalk.Proofs.Chain.Segments
import Chainwalk.Proofs.Class.Linearization
import Chainwalk.Proofs.Class.Unfolding
import Chainwalk.Proofs.Command.Written
import Chainwalk.Proofs.Conversion.Plans
import Chainwalk.Proofs.Conversion.RootCause
import Chainwalk.Proofs.Conversion.RoundTrip
import Chainwalk.Proofs.Inventory.Adding
import Chainwalk.Proofs.Inventory.Handling
import Chainwalk.Proofs.Inventory.Held
import Chainwalk.Proofs.Inventory.Removing
import Chainwalk.Proofs.Inventory.Sharing
import Chainwalk.Proofs.Inventory.Slots
import Chainwalk.Proofs.Inventory.Standing
import Chainwalk.Proofs.Method.DeclaredOrder
import Chainwalk.Proofs.Method.Resolution
import Chainwalk.Proofs.Method.Signatures
import Chainwalk.Proofs.Number.Decimal
import Chainwalk.Proofs.Object.Shown
import Chainwalk.Proofs.Plugin.Lifecycle
import Chainwalk.Proofs.Plugin.Targets
import Chainwalk.Proofs.Realm.Along
import Chainwalk.Proofs.Realm.Checks
import Chainwalk.Proofs.Realm.Conversion
import Chainwalk.Proofs.Realm.Methods
import Chainwalk.Proofs.Realm.Walk
import Chainwalk.Proofs.Registry.Changes
import Chainwalk.Proofs.Registry.Handlers
import Chainwalk.Proofs.Registry.Shipped
import Chainwalk.Proofs.Residents.Addressing
import Chainwalk.Proofs.Residents.Arrivals
import Chainwalk.Proofs.Residents.Census
import Chainwalk.Proofs.Residents.Peopled
import Chainwalk.Proofs.Residents.Staying
import Chainwalk.Proofs.Seeds.Alike
import Chainwalk.Proofs.Seeds.Blind
import Chainwalk.Proofs.Seeds.Conversion
import Chainwalk.Proofs.Seeds.Loading
import Chainwalk.Proofs.Seeds.Methods
import Chainwalk.Proofs.Seeds.Realm
import Chainwalk.Proofs.Seeds.Session
import Chainwalk.Proofs.Seeds.Text
import Chainwalk.Proofs.Seeds.Walk
import Chainwalk.Proofs.Seeds.WorldList
import Chainwalk.Proofs.Snapshot.Acceptance
import Chainwalk.Proofs.Snapshot.Shown
import Chainwalk.Proofs.Text.Apart
import Chainwalk.Proofs.Text.Elements
import Chainwalk.Proofs.Text.Spelling
import Chainwalk.Proofs.Typing.Classes
import Chainwalk.Proofs.Typing.Conversion
import Chainwalk.Proofs.Typing.Methods
import Chainwalk.Proofs.Typing.Views
import Chainwalk.Proofs.Typing.Walk
import Chainwalk.Realm.Basic
import Chainwalk.Realm.Entity
import Chainwalk.Realm.Enumerated
import Chainwalk.Realm.GameMode
import Chainwalk.Realm.Inventory
import Chainwalk.Realm.ItemStack
import Chainwalk.Realm.Location
import Chainwalk.Realm.Material
import Chainwalk.Realm.MobType
import Chainwalk.Realm.Refusal
import Chainwalk.Realm.Server
import Chainwalk.Realm.Table
import Chainwalk.Realm.Weather
import Chainwalk.Realm.World
import Chainwalk.Snapshot.Basic
import Chainwalk.Snapshot.Document
import Chainwalk.Text.Ascii
import Chainwalk.Text.Blank
import Chainwalk.Text.CaseTable
import Chainwalk.Text.Hexadecimal
import Chainwalk.Text.LetterCase
import Chainwalk.Text.Pieces
import Chainwalk.Text.Quoted
import Chainwalk.Text.Unprintable
import Chainwalk.Toml.Basic
import Chainwalk.Toml.Quoted
import Chainwalk.Toml.Reading
import Chainwalk.Toml.Scalar
import Chainwalk.Proofs.Inventory.Batches
import Chainwalk.Proofs.Inventory.Packing
import Chainwalk.Proofs.World.Grid
import Chainwalk.Proofs.Snapshot.Blocks
import Chainwalk.Proofs.Snapshot.Belongings
import Chainwalk.Proofs.Command.Cutting
import Chainwalk.Proofs.Conversion.Constants
import Chainwalk.Proofs.Residents.Reached
import Chainwalk.Proofs.World.Clock
import Chainwalk.Proofs.Conversion.Places
import Chainwalk.Proofs.World.Advancing
import Chainwalk.Proofs.Registry.Again
import Chainwalk.Proofs.Object.Equality
