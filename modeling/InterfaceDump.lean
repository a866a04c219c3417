import InterfaceDump.Diagnostics.Listing
import InterfaceDump.Dump.LocalAddress
import InterfaceDump.Dump.Text
import InterfaceDump.Main
import InterfaceDump.Message.Build
import InterfaceDump.Message.Sample
import InterfaceDump.Proofs.Address.Canonical
import InterfaceDump.Proofs.Address.Link
import InterfaceDump.Proofs.Address.Survival
import InterfaceDump.Proofs.Checked.Dump
import InterfaceDump.Proofs.Dump.Cursor
import InterfaceDump.Proofs.Dump.Damage
import InterfaceDump.Proofs.Dump.Identity
import InterfaceDump.Proofs.Dump.Pairing
import InterfaceDump.Proofs.Dump.Spans
import InterfaceDump.Proofs.Dump.Sweep
import InterfaceDump.Proofs.Dump.Synthetic
import InterfaceDump.Proofs.Dump.Truncated
import InterfaceDump.Proofs.Dump.Unasked
import InterfaceDump.Proofs.Message.Fields
import InterfaceDump.Proofs.Message.Templates
import InterfaceDump.Proofs.Record.Framing
import InterfaceDump.Proofs.Address.Declared
import InterfaceDump.Proofs.Address.Masks
import InterfaceDump.Proofs.Address.Prefix
import InterfaceDump.Proofs.Address.LeadingOnes
import InterfaceDump.Proofs.Address.Scope
import InterfaceDump.Proofs.Message.Slots
import InterfaceDump.Proofs.Message.Packed
import InterfaceDump.Proofs.Address.MaskScope
import InterfaceDump.Proofs.Address.Layout
import InterfaceDump.Proofs.Dump.Seek
import InterfaceDump.Proofs.Dump.Window
import InterfaceDump.Proofs.Dump.LocalAddress
import InterfaceDump.Proofs.Listing.InetLines
import InterfaceDump.Proofs.Listing.Filters
import InterfaceDump.Proofs.Listing.Selector
import InterfaceDump.Proofs.Listing.SharedSlot
import InterfaceDump.Proofs.Listing.Outcomes
