import CommandShell.CommandLine
import CommandShell.Feed
import CommandShell.Main
import CommandShell.Proofs.Expansion
import CommandShell.Proofs.Splitting
import CommandShell.Proofs.LineGrammar
import CommandShell.Proofs.Spelling
import CommandShell.Proofs.Scan
import CommandShell.Proofs.Substitution
import CommandShell.Proofs.Course
import CommandShell.Proofs.Dispatch
import CommandShell.Proofs.Simulation
import CommandShell.Proofs.ErrorStream
import CommandShell.Proofs.Sequence
import CommandShell.Proofs.Acts
import CommandShell.Proofs.Runs
import CommandShell.Proofs.Soundness
import CommandShell.Proofs.Inheritance
import CommandShell.Proofs.Storage
import CommandShell.Proofs.Places
import CommandShell.Proofs.Numbering
import CommandShell.Proofs.SavedHistory
import CommandShell.Proofs.Decoding
import CommandShell.Proofs.Restart
import CommandShell.Proofs.EarlierStatus
import CommandShell.Proofs.Requests
import CommandShell.Proofs.Footprint
import CommandShell.Proofs.Continuation
import CommandShell.Proofs.Interruptions
import CommandShell.Proofs.Cutoff
import CommandShell.Proofs.Submissions
import CommandShell.Proofs.RunSimulation
import CommandShell.Proofs.EarlierRequest
import CommandShell.Proofs.InputLines
import CommandShell.Proofs.Pieces
import CommandShell.Proofs.Feeds
import CommandShell.Proofs.Records
import CommandShell.Proofs.StandardInput
import CommandShell.Proofs.FileInput
import CommandShell.Proofs.HistoryPlace
import CommandShell.Proofs.Diagnostics
import CommandShell.Proofs.Updates
import CommandShell.Proofs.AliasOperands
import CommandShell.Proofs.AliasListing
import CommandShell.Proofs.KeptReferences
import CommandShell.Proofs.PathSearch
import CommandShell.Proofs.DirectoryChange
import CommandShell.Proofs.PreviousDirectory
import CommandShell.Proofs.ExitCodes
