import TagTree.Document
import TagTree.Main
import TagTree.Proofs.Command.Agreement
import TagTree.Proofs.Document.Faults
import TagTree.Proofs.Document.Outline
import TagTree.Proofs.Document.VisibleText
import TagTree.Proofs.Node.Events
import TagTree.Proofs.Node.Json
import TagTree.Proofs.Parser.Joined
import TagTree.Proofs.Parser.Locality
import TagTree.Proofs.Parser.Words
import TagTree.Proofs.Token.Choice
import TagTree.Proofs.Token.Composition
import TagTree.Proofs.Token.Unambiguous
import TagTree.Proofs.Warnings.Sessions
