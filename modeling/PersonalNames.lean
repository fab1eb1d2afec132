import PersonalNames.CommandLine.Run
import PersonalNames.Main
import PersonalNames.Proofs.Pattern.Scanning
import PersonalNames.Proofs.Pattern.Reading
import PersonalNames.Proofs.Pattern.Beginning
import PersonalNames.Proofs.Pattern.Grammar
import PersonalNames.Proofs.Pattern.Faults
import PersonalNames.Proofs.Markup.Content
import PersonalNames.Proofs.Markup.Rendering
import PersonalNames.Proofs.Markup.Safety
import PersonalNames.Proofs.Markup.Modes
import PersonalNames.Proofs.NameList.Joining
import PersonalNames.Proofs.Pattern.Decisions
import PersonalNames.Proofs.Pattern.Chain
import PersonalNames.Proofs.Configuration.Layers
import PersonalNames.Proofs.Formatter.Service
import PersonalNames.Proofs.Pattern.Viability
import PersonalNames.Proofs.Pattern.NormalForm
import PersonalNames.Proofs.Configuration.Storing
import PersonalNames.Proofs.CommandLine.Formatting
import PersonalNames.Proofs.Formatter.Hiding
import PersonalNames.Proofs.Markup.Annotation
import PersonalNames.Proofs.PersonName.Readings
import PersonalNames.Proofs.Markup.Merging
import PersonalNames.Proofs.Markup.TextContent
import PersonalNames.Proofs.PersonName.Absence
import PersonalNames.Proofs.Pattern.Lockstep
import PersonalNames.Proofs.Pattern.Composition
import PersonalNames.Proofs.Pattern.Escaping
import PersonalNames.Proofs.Pattern.Dissolving
import PersonalNames.Proofs.Pattern.Alternatives
import PersonalNames.Proofs.Pattern.Mentions
import PersonalNames.Proofs.Configuration.Overlaying
import PersonalNames.Proofs.Settings.Store
import PersonalNames.Proofs.PersonName.Normalizing
import PersonalNames.Proofs.Text.Words
import PersonalNames.Proofs.Text.CaseMapping
import PersonalNames.Proofs.Text.CaseImages
import PersonalNames.Proofs.Modifier.Words
import PersonalNames.Proofs.Modifier.Idempotence
import PersonalNames.Proofs.Pattern.Presence
import PersonalNames.Proofs.Text.Quoting
import PersonalNames.Proofs.Pattern.Listing
import PersonalNames.Proofs.CommandLine.Checking
import PersonalNames.Proofs.Pattern.Repetition
