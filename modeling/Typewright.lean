import Typewright.Document
import Typewright.Log.Setup
import Typewright.Proofs.ContextStore
import Typewright.Proofs.Rendering
import Typewright.Resolution.Query
import Typewright.Resolution.Session
import Typewright.Template.Helper
import Typewright.Proofs.Accounting
import Typewright.Proofs.Lenient
import Typewright.Proofs.Agreement
import Typewright.Proofs.DecimalText
import Typewright.Proofs.Readback
import Typewright.Proofs.RoundTrip
import Typewright.Proofs.VanishingType
import Typewright.Proofs.Target
import Typewright.Proofs.Order
import Typewright.Proofs.Extension
import Typewright.Proofs.Identifier
import Typewright.Proofs.Construction
import Typewright.Proofs.DecimalValue
import Typewright.Proofs.Integrity
import Typewright.Proofs.Numeral
import Typewright.Proofs.Bounds
import Typewright.Proofs.SqlType
import Typewright.Proofs.BareName
import Typewright.Proofs.SizeGroup
import Typewright.Proofs.LanguageForm
import Typewright.Proofs.Words
import Typewright.Proofs.Accessor
import Typewright.Proofs.PlainText
import Typewright.Proofs.Markup
import Typewright.Proofs.Protection
import Typewright.Proofs.Catalog
import Typewright.Proofs.KeyPart
import Typewright.Proofs.FirstLetter
import Typewright.Proofs.Opening
