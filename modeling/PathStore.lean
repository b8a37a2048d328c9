import PathStore.Session.Run
import PathStore.Proofs.Entries.Bounds
import PathStore.Proofs.Array.Views
import PathStore.Proofs.Cursor.Enumeration
import PathStore.Proofs.Submap.Copies
import PathStore.Proofs.Decisions
import PathStore.Proofs.World.Conduct
import PathStore.Proofs.World.Needs
import PathStore.Proofs.Session.Conduct
import PathStore.Proofs.Session.Requests
import PathStore.Proofs.Session.Lending
import PathStore.Proofs.Session.Moments
import PathStore.Proofs.Session.Refusals
import PathStore.Proofs.Session.Failures
import PathStore.Proofs.Session.Listings
import PathStore.Proofs.World.Existence
import PathStore.Proofs.World.Origins
import PathStore.Proofs.Session.Existence
import PathStore.Proofs.Session.Origins
import PathStore.Proofs.Session.Isolation
import PathStore.Proofs.Array.Blocks
import PathStore.Proofs.Array.Constructors
import PathStore.Proofs.Array.Lifecycle
import PathStore.Proofs.Entries.Planting
import PathStore.Proofs.Submap.Grafting
import PathStore.Proofs.World.Spares
import PathStore.Proofs.World.Readings
import PathStore.Proofs.Session.Places
import PathStore.Proofs.Session.Spares
import PathStore.Proofs.Session.Touches
import PathStore.Proofs.Array.Overwriting
import PathStore.Proofs.Session.Elements
import PathStore.Proofs.Submap.Separation
import PathStore.Proofs.Array.Selections
import PathStore.Proofs.Session.Accessors
import PathStore.Proofs.Session.Emptiness
import PathStore.Proofs.Array.Checks
import PathStore.Proofs.Submap.Overlays
import PathStore.Proofs.Cursor.Removals
import PathStore.Proofs.Submap.Removals
import PathStore.Proofs.Keys.Reach
import PathStore.Proofs.Keys.Ascents
import PathStore.Proofs.Keys.Noise
import PathStore.Proofs.Array.RowMajor
import PathStore.Proofs.Array.Slices
import PathStore.Proofs.Array.Contiguity
import PathStore.Proofs.Array.Equality
import PathStore.Proofs.Session.Aliases
import PathStore.Proofs.Session.Batches
import PathStore.Proofs.Submap.Deeds
