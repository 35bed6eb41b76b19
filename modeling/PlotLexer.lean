import PlotLexer.Grammar
import PlotLexer.Log
import PlotLexer.Proofs.Alphabet
import PlotLexer.Proofs.Boundaries
import PlotLexer.Proofs.Concatenation
import PlotLexer.Proofs.Cursors
import PlotLexer.Proofs.Diagnostics
import PlotLexer.Proofs.Draining
import PlotLexer.Proofs.Ending
import PlotLexer.Proofs.Histories
import PlotLexer.Proofs.Layouts
import PlotLexer.Proofs.Lexemes
import PlotLexer.Proofs.Lines
import PlotLexer.Proofs.Logging
import PlotLexer.Proofs.Lookahead
import PlotLexer.Proofs.Machine
import PlotLexer.Proofs.Names
import PlotLexer.Proofs.Occurrences
import PlotLexer.Proofs.Offences
import PlotLexer.Proofs.Ordering
import PlotLexer.Proofs.Overflow
import PlotLexer.Proofs.Positions
import PlotLexer.Proofs.Progress
import PlotLexer.Proofs.Quoting
import PlotLexer.Proofs.Reports
import PlotLexer.Proofs.Runs
import PlotLexer.Proofs.Scanning
import PlotLexer.Proofs.Sessions
import PlotLexer.Proofs.Spans
import PlotLexer.Proofs.Taking
import PlotLexer.Proofs.Tokenization
import PlotLexer.Proofs.Tokens
import PlotLexer.Proofs.Vocabulary
import PlotLexer.Registers
import PlotLexer.Session
