import PacketSteering.Card.Basic
import PacketSteering.Card.State
import PacketSteering.ColourTable
import PacketSteering.Configuration
import PacketSteering.Document.Basic
import PacketSteering.Document.Instances
import PacketSteering.Expression
import PacketSteering.Fault
import PacketSteering.Filter
import PacketSteering.Loader
import PacketSteering.Pattern
import PacketSteering.Proofs.Address.Ipv4
import PacketSteering.Proofs.Address.Mac
import PacketSteering.Proofs.Address.Octets
import PacketSteering.Proofs.BitField
import PacketSteering.Proofs.Card.Banks
import PacketSteering.Proofs.Card.Channel
import PacketSteering.Proofs.Card.Effects
import PacketSteering.Proofs.Card.Events
import PacketSteering.Proofs.Card.Indexing
import PacketSteering.Proofs.Card.Journal
import PacketSteering.Proofs.Card.RoundTrip
import PacketSteering.Proofs.Card.Slot
import PacketSteering.Proofs.Card.Steering
import PacketSteering.Proofs.Card.Traffic
import PacketSteering.Proofs.ColourTable.Allocation
import PacketSteering.Proofs.ColourTable.Entries
import PacketSteering.Proofs.ColourTable.Packing
import PacketSteering.Proofs.ColourTable.Stores
import PacketSteering.Proofs.ColourTable.Words
import PacketSteering.Proofs.Configuration.Dependence
import PacketSteering.Proofs.Configuration.Handles
import PacketSteering.Proofs.Configuration.InPlace
import PacketSteering.Proofs.Configuration.Priority
import PacketSteering.Proofs.Configuration.Reachable
import PacketSteering.Proofs.Configuration.SlotMap
import PacketSteering.Proofs.Configuration.Staging
import PacketSteering.Proofs.Configuration.Steering
import PacketSteering.Proofs.EntryWidth
import PacketSteering.Proofs.Loader.Account
import PacketSteering.Proofs.Loader.CompareLength
import PacketSteering.Proofs.Loader.Dump
import PacketSteering.Proofs.Loader.Exchange
import PacketSteering.Proofs.Loader.Hitless
import PacketSteering.Proofs.Loader.Integrity
import PacketSteering.Proofs.Loader.Load
import PacketSteering.Proofs.Loader.Publish
import PacketSteering.Proofs.Loader.Refusal
import PacketSteering.Proofs.Loader.Reload
import PacketSteering.Proofs.Loader.Session
import PacketSteering.Proofs.Loader.Settling
import PacketSteering.Proofs.Loader.Slot
import PacketSteering.Proofs.Loader.Swap
import PacketSteering.Proofs.Loader.Unchanged
import PacketSteering.Proofs.Loader.Unrelated
import PacketSteering.Proofs.Loader.Written
import PacketSteering.Proofs.Numeral
import PacketSteering.Proofs.Patch
import PacketSteering.Proofs.Pattern
import PacketSteering.Proofs.Register.Messages
import PacketSteering.Proofs.Register.Run
import PacketSteering.Proofs.Register.Settling
import PacketSteering.Proofs.Register.Words
import PacketSteering.Proofs.Report.ColourTable
import PacketSteering.Proofs.Report.Dump
import PacketSteering.Proofs.Rule.Bounds
import PacketSteering.Proofs.Rule.Field
import PacketSteering.Proofs.Rule.InPlace
import PacketSteering.Proofs.Rule.Meaning
import PacketSteering.Proofs.Rule.Order
import PacketSteering.Proofs.Rule.RawMode
import PacketSteering.Proofs.Rule.Refusal
import PacketSteering.Proofs.Rule.Termination
import PacketSteering.Proofs.Rule.Text
import PacketSteering.Proofs.Rule.WellFormed
import PacketSteering.Proofs.TableLayout
import PacketSteering.Proofs.Text
import PacketSteering.Proofs.Wire
import PacketSteering.Register.Channel
import PacketSteering.Register.Program
import PacketSteering.Register.Protocol
import PacketSteering.Report
import PacketSteering.Rule.Basic
import PacketSteering.Rule.Edit
import PacketSteering.Rule.Text
import PacketSteering.TableLayout
import PacketSteering.Text
import PacketSteering.Wire
