import ProviderDocs.CommandLine.Program
import ProviderDocs.Main
import ProviderDocs.Naming.Singular
import ProviderDocs.Proofs.Cleanup.InlineReference
import ProviderDocs.Proofs.Cleanup.Loss
import ProviderDocs.Proofs.Cleanup.PageLine
import ProviderDocs.Proofs.Cleanup.RelativeLink
import ProviderDocs.Proofs.Conversion.MinimalRepro
import ProviderDocs.Proofs.Conversion.Preparation
import ProviderDocs.Proofs.Conversion.ReproScript
import ProviderDocs.Proofs.Conversion.SharedFile
import ProviderDocs.Proofs.Doc.Overlay
import ProviderDocs.Proofs.DocSource.Run
import ProviderDocs.Proofs.Markdown.ArgumentCopy
import ProviderDocs.Proofs.Markdown.ArgumentScan
import ProviderDocs.Proofs.Markdown.BlockIntroduction
import ProviderDocs.Proofs.Markdown.ButtonMarkup
import ProviderDocs.Proofs.Markdown.ExampleBody
import ProviderDocs.Proofs.Markdown.ExampleHeading
import ProviderDocs.Proofs.Markdown.ExampleTitle
import ProviderDocs.Proofs.Markdown.ImportNormalForm
import ProviderDocs.Proofs.Markdown.Preprocessing
import ProviderDocs.Proofs.Markdown.ProseLayout
import ProviderDocs.Proofs.Markdown.RaisedTitle
import ProviderDocs.Proofs.Markdown.RepeatedFold
import ProviderDocs.Proofs.Markdown.SchemaRecord
import ProviderDocs.Proofs.Markdown.SchemaText
import ProviderDocs.Proofs.Markdown.SectionOrder
import ProviderDocs.Proofs.Markdown.SkippedBullet
import ProviderDocs.Proofs.Markdown.WrittenBullet
import ProviderDocs.Proofs.Schema.NestedObject
import ProviderDocs.Proofs.Schema.OmittedField
import ProviderDocs.Proofs.Schema.Shape
import ProviderDocs.Proofs.TypeName.Choice
import ProviderDocs.Proofs.TypeName.Coverage
import ProviderDocs.Proofs.TypeName.Deletion
import ProviderDocs.Proofs.TypeName.Independence
import ProviderDocs.Proofs.TypeName.RequiredNames
import ProviderDocs.Proofs.TypeName.SegmentChoice
import ProviderDocs.Proofs.TypeName.SharedEntry
import ProviderDocs.Proofs.TypeName.Sharing
import ProviderDocs.Proofs.TypeName.Walk
import ProviderDocs.Provider.Token
import ProviderDocs.Stats.Json
