import HeapProbe.Main
import HeapProbe.Heap.Schema
import HeapProbe.Proofs.Heap.RoundTrip
import HeapProbe.Proofs.Inspector.Ownership
import HeapProbe.Proofs.Session.Advance
import HeapProbe.Proofs.Inspector.Turn
import HeapProbe.Proofs.Heap.Query
import HeapProbe.Proofs.Inspector.Stale
import HeapProbe.Proofs.Inspector.Release
import HeapProbe.Proofs.Probe.Truth
import HeapProbe.Proofs.Heap.Truth
import HeapProbe.Proofs.Heap.Visitor
import HeapProbe.Proofs.Heap.Accounts
import HeapProbe.Proofs.Heap.Handle
import HeapProbe.Proofs.Inspector.Order
import HeapProbe.Proofs.Inspector.Failure
import HeapProbe.Proofs.Command.Ending
import HeapProbe.Proofs.Image.Flatten
import HeapProbe.Proofs.Memory.Integers
import HeapProbe.Proofs.Target.Globals
import HeapProbe.Proofs.Session.Stage
import HeapProbe.Proofs.Probe.Alike
import HeapProbe.Proofs.Inspector.Renewal
import HeapProbe.Proofs.Heap.Endings
import HeapProbe.Proofs.Heap.Listing
import HeapProbe.Proofs.Heap.Tiling
import HeapProbe.Proofs.Command.Reading
import HeapProbe.Proofs.Inspector.Openings
import HeapProbe.Proofs.Command.Source
import HeapProbe.Proofs.Session.Publication
import HeapProbe.Proofs.Heap.Counters
import HeapProbe.Proofs.Heap.Bounds
import HeapProbe.Proofs.Heap.Wording
import HeapProbe.Proofs.Heap.Tabulation
import HeapProbe.Proofs.Settings.Fields
import HeapProbe.Proofs.Settings.Overlay
import HeapProbe.Proofs.Heap.Groups
