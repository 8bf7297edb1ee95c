import DisplayGen.Formatting
import DisplayGen.Main
import DisplayGen.Text.Utf8
import DisplayGen.Watching
import DisplayGen.Proofs.Extraction
import DisplayGen.Proofs.Generator.Transparent
import DisplayGen.Proofs.Session.History
import DisplayGen.Proofs.Resolution
import DisplayGen.Proofs.Source.Lexer.Word
import DisplayGen.Proofs.Marker.Definition
import DisplayGen.Proofs.Marker
import DisplayGen.Proofs.Disk.Files
import DisplayGen.Proofs.Generator.Saved
import DisplayGen.Proofs.Session.Stale
import DisplayGen.Proofs.Disk.Alike
import DisplayGen.Proofs.Extraction.Origin
import DisplayGen.Proofs.Generator.Agreement
import DisplayGen.Proofs.Generator.Names
import DisplayGen.Proofs.Session.Restart
import DisplayGen.Proofs.Session.Rounds
import DisplayGen.Proofs.Resolution.Limit
import DisplayGen.Proofs.Resolution.Bare
import DisplayGen.Proofs.Project
import DisplayGen.Proofs.Emission.Reread
import DisplayGen.Proofs.Config
import DisplayGen.Proofs.Generator.Feedback
import DisplayGen.Proofs.Session.Again
import DisplayGen.Proofs.Manifest.Stored
import DisplayGen.Proofs.Extraction.Names
import DisplayGen.Proofs.Emission.Writable
import DisplayGen.Proofs.Generator.Failure
import DisplayGen.Proofs.Generator.Unreadable
import DisplayGen.Proofs.Disk.Listing
import DisplayGen.Proofs.Emission.Counts
import DisplayGen.Proofs.Disk.Counts
import DisplayGen.Proofs.Generator.Counts
import DisplayGen.Proofs.Session.Unseen
import DisplayGen.Proofs.Resolution.Absolute
import DisplayGen.Proofs.Extraction.Order
import DisplayGen.Proofs.Extraction.Nested
import DisplayGen.Proofs.Generator.Appended
import DisplayGen.Proofs.Config.Accepted
import DisplayGen.Proofs.Generator.Identity
import DisplayGen.Proofs.Emission.Template
import DisplayGen.Proofs.Cache.Removed
import DisplayGen.Proofs.Invocation
import DisplayGen.Proofs.Crate.Load
import DisplayGen.Proofs.Emission.History
import DisplayGen.Proofs.Cache.History
import DisplayGen.Proofs.Generator.Entries
import DisplayGen.Proofs.Resolution.Leaves
