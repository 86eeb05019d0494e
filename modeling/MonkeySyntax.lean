import MonkeySyntax.Main
import MonkeySyntax.Parsing.Session
import MonkeySyntax.Proofs.Layers
import MonkeySyntax.Proofs.Outcome
import MonkeySyntax.Proofs.Stream
import MonkeySyntax.Tree.Equality
import MonkeySyntax.Tree.Outline
import MonkeySyntax.Proofs.Completeness
import MonkeySyntax.Proofs.Probes
import MonkeySyntax.Proofs.Passage
import MonkeySyntax.Proofs.Likeness
import MonkeySyntax.Proofs.Soundness
import MonkeySyntax.Proofs.Braces
import MonkeySyntax.Proofs.Joining
import MonkeySyntax.Proofs.Mirror
import MonkeySyntax.Proofs.Lockstep
import MonkeySyntax.Proofs.Firewall
import MonkeySyntax.Proofs.Enclosure
import MonkeySyntax.Proofs.Tiling
import MonkeySyntax.Proofs.Lexemes
import MonkeySyntax.Proofs.Provenance
import MonkeySyntax.Proofs.Canonical
import MonkeySyntax.Proofs.Blocks
import MonkeySyntax.Proofs.Conduct
import MonkeySyntax.Proofs.FaultOrder
import MonkeySyntax.Proofs.Threshold
import MonkeySyntax.Proofs.Height
import MonkeySyntax.Proofs.Resumption
import MonkeySyntax.Proofs.Window
import MonkeySyntax.Proofs.Layout
import MonkeySyntax.Proofs.Selection
import MonkeySyntax.Proofs.Recursion
import MonkeySyntax.Proofs.Halting
import MonkeySyntax.Proofs.Coordinates
import MonkeySyntax.Proofs.Veracity
import MonkeySyntax.Proofs.Marks
import MonkeySyntax.Proofs.Chains
import MonkeySyntax.Proofs.DumpReader
import MonkeySyntax.Proofs.Agreement
import MonkeySyntax.Proofs.Nesting
