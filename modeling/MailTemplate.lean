import MailTemplate.Main
import MailTemplate.Proofs.Inlining.Restyled
import MailTemplate.Proofs.Interpolation.LeftmostSearch
import MailTemplate.Proofs.Markup.RoundTrip
import MailTemplate.Proofs.Markup.Substitution
import MailTemplate.Proofs.Css.Pieces
import MailTemplate.Proofs.Inlining.Clean
import MailTemplate.Proofs.Inlining.Outline
import MailTemplate.Proofs.Markup.Legible
import MailTemplate.Proofs.Markup.TokenText
import MailTemplate.Proofs.Inlining.Rereading
import MailTemplate.Proofs.Inlining.LegibleTags
import MailTemplate.Proofs.Css.Characters
import MailTemplate.Proofs.Inlining.PlainTags
import MailTemplate.Proofs.Inlining.ReadBack
import MailTemplate.Proofs.Inlining.Values
import MailTemplate.Proofs.Markup.Lexed
import MailTemplate.Proofs.Markup.LexedText
import MailTemplate.Proofs.Css.AtRules
import MailTemplate.Proofs.Interpolation.FailureMarks
import MailTemplate.Proofs.Css.Cascade
import MailTemplate.Proofs.Interpolation.Preamble
import MailTemplate.Proofs.Css.Declarations
import MailTemplate.Proofs.Css.Wildcards
import MailTemplate.Proofs.Inlining.Cut
import MailTemplate.Proofs.Inlining.Splicing
import MailTemplate.Proofs.Inlining.Merging
import MailTemplate.Proofs.Template.Containment
import MailTemplate.Proofs.Command.Order
import MailTemplate.Proofs.Inlining.Apart
import MailTemplate.Proofs.Markup.Coloring
import MailTemplate.Proofs.Command.TokenDump
import MailTemplate.Proofs.Template.OptionsText
import MailTemplate.Proofs.Css.CanonicalForm
import MailTemplate.Proofs.Inlining.Spared
import MailTemplate.Proofs.Markup.TagSpans
import MailTemplate.Proofs.Markup.Unescape
