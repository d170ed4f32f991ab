import CardCatalog.Main
import CardCatalog.Proofs.Query.FirstFault
import CardCatalog.Proofs.Query.Lexing
import CardCatalog.Proofs.Query.Template
import CardCatalog.Proofs.Store.Faces
import CardCatalog.Proofs.Store.Lookup
import CardCatalog.Proofs.Store.Names
import CardCatalog.Store.Sample
import CardCatalog.Proofs.Query.Tiling
import CardCatalog.Proofs.Query.Composition
import CardCatalog.Proofs.Store.FullName
import CardCatalog.Proofs.Store.Independence
import CardCatalog.Proofs.Mana.Pips
import CardCatalog.Proofs.Siblings
import CardCatalog.Proofs.Mana.Comparison
import CardCatalog.Proofs.Card.Date
import CardCatalog.Proofs.Card.Json
import CardCatalog.Proofs.Mana.Containment
import CardCatalog.Proofs.Mana.Spelling
import CardCatalog.Proofs.Text.Pattern
import CardCatalog.Proofs.Query.Colors
import CardCatalog.Proofs.Number.Order
import CardCatalog.Proofs.Sorting
import CardCatalog.Proofs.Store.Sorting
import CardCatalog.Proofs.Store.Preference
import CardCatalog.Proofs.Store.Halves
import CardCatalog.Proofs.Store.OtherFaces
import CardCatalog.Proofs.Store.Colors
import CardCatalog.Proofs.Store.Printings
import CardCatalog.Proofs.Mana.Symbols
import CardCatalog.Proofs.Query.Acceptance
import CardCatalog.Proofs.Query.Clearing
import CardCatalog.Proofs.Display.Sheet
import CardCatalog.Proofs.Display.Formats
import CardCatalog.Proofs.Query.Returning
