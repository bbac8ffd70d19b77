import Std.Data.HashSet
import AddonCatalog.Text.Blank
/-!
# Character names

The names of Unicode characters (Unicode 14.0), as an escape `\N{name}` finds them:

* the names of the characters, and their aliases (corrections, control and format
  names, abbreviations), matched without regard to the case of ASCII letters; named
  sequences of several characters are not names of a character;
* `HANGUL SYLLABLE ` followed by the upper-case names of a leading consonant, a vowel
  and a trailing consonant, each the longest that fits (`hangulSyllable?`);
* `CJK UNIFIED IDEOGRAPH-` followed by four or five upper-case hex digits of a unified
  ideograph (`isUnifiedIdeograph`).

The two prefixes are matched exactly. The other names are stored sorted, each written
as the number of leading characters it shares with the name before it, as one
character from `U+0100` on, followed by the rest of the name (`namesText`).

* `Text.isCharacterName` tells whether a text names a character.
-/

namespace AddonCatalog.Text

/-- Part 1 of the front-coded names. -/
def namesPart1 : String := String.join [
    "ĀABACUSāC CURRENTĂCORDIONĄUNT OFĂKăNOWLEDGEĂTIVATE ARABIC FORM SHAPINGĉSYMMETRIC SWAPPINGĂUTE AC",
    "CENTćNGLEāDDRESSED TO THE SUBJECTĂHESIVE BANDAGEĂI SHAKTIĂLAM ALIF LENGTHENERĆCAPITAL LETTER ALI",
    "FĕBAĖHEĕCHIĕDAALIĖHAĕEĕFAĕGAĖBEĕHAĕIĕJIIMĕKAFĖHAĖPOĕLAAMĕMIIMĕNHAĖUNĖYAĕOĕPEĕQAAFĕRAĕSHAĖINNYIIY",
    "HEĕTUĕUĕVAĕWAWĕYAĖHEĕZALćONSONANT MODIFIERĆDIGIT EIGHTČFIVEčOURČNINEČONEČSEVENčIXČTHREEčWOČZEROĆ",
    "GEMINATE CONSONANT MODIFIERčION MARKĆHAMZAĆINITIAL EXCLAMATION MARKĎQUESTION MARKĆNASALIZATION M",
    "ARKćUKTAĆSMALL LETTER ALIFēBAĔHEēCHIēDAALIĔHAēEēFAēGAĔBEēHAēIēJIIMēKAFĔHAĔPOēLAAMēMIIMēNHAĔUNĔYA",
    "ēOēPEēQAAFēRAēSHAĔINNYIIYHEēTUēUēVAēWAWēYAĔHEēZALĆVOWEL LENGTHENERĂMETOSăISSION TICKETSĂULTāEGEA",
    "N CHECK MARKćDRY MEASURE FIRST SUBUNITćLIQUID MEASURE FIRST SUBUNITćMEASURE SECOND SUBUNITďTHIRD",
    " SUBUNITćNUMBER EIGHTē HUNDREDĔTHOUSANDēYĔ THOUSANDĎFIFTYē THOUSANDĐVEĒ HUNDREDēTHOUSANDďORTYē T",
    "HOUSANDĐURĒ HUNDREDēTHOUSANDĎNINEĒ HUNDREDēTHOUSANDĒTYĔ THOUSANDĎONEđ HUNDREDĒTHOUSANDĎSEVENē HU",
    "NDREDĔTHOUSANDēTYĕ THOUSANDďIXđ HUNDREDĒTHOUSANDđTYē THOUSANDĎTENđ THOUSANDďHIRTYĔ THOUSANDĐREEē",
    " HUNDREDĔTHOUSANDďWENTYĔ THOUSANDĐOđ HUNDREDĒTHOUSANDćWEIGHT BASE UNITĎFIRST SUBUNITďOURTH SUBUN",
    "ITĎSECOND SUBUNITĎTHIRD SUBUNITĈORD SEPARATOR DOTĖLINEĂRIAL TRAMWAYāFGHANI SIGNāHOM CONSONANT SI",
    "GN MEDIAL LAĜIGATING RAěRAąDIGIT EIGHTċFIVEČOURċNINEċONEċSEVENČIXċTHREEČWOċZEROąLETTER AčLTERNAT",
    "E BAĖGAĖTAČBAčHAČCAčHAČDAčDAĎHAčHAČGAčHAČHAČJAčHAČKAčHAČLAčLAČMAČNAčGAčNAčYAČPAčHAČRAČSAČTAčHAčT",
    "AĎHAąNUMBER TENčWENTYąSIGN KILLERĊRULAIĊSECTIONċMALL SECTIONĆYMBOL VIąVOWEL SIGN AđAđIđMđWĐEĐIđI",
    "ĐOĐUđUāIRPLANEĈ ARRIVINGĉDEPARTUREāKTIESELSKABāLARM CLOCKĂCHEMICAL SYMBOL FOR AIRėLEMBICĘKALIĜ-2",
    "ĘUMėMALGAMėNTIMONY OREėQUA REGIAĠ-2ěVITAEĠ-2ĚFORTISėRSENICėSHESėURIPIGMENTĖBATH OF MARYĞVAPOURSė",
    "ISMUTH OREėLACK SULFURėORAXě-2Ĝ3ėRICKĖCADUCEUSĘLXĘPUT MORTUUMėINNABARėOPPER ANTIMONIATEĝOREėROCU",
    "S OF COPPERĦ-2ĠIRONĘUCIBLEĞ-2ğ3ğ4ğ5ĖDAY-NIGHTėISSOLVEĞ-2ęTILLĖEARTHĖFIREĖGOLDėUMĖHALF DRAMěOUNCE",
    "ėORSE DUNGĘURĖIRON OREĞ-2Ě-COPPER OREĖLEAD OREėODESTONEĖMARCASITEėERCURY SUBLIMATEħ-2Ĩ3ėONTHĖNIG",
    "HTĘTREĖOILĖPHILOSOPHERS SULFURėOT ASHESĘWDERĜED BRICKėRECIPITATEėURIFYĘTREFACTIONĖQUICK LIMEęNTE",
    "SSENCEĖREALGARĝ-2ĘGULUSĝ OF ANTIMONYĩ-2ġIRONĝ-2Ğ3Ğ4ĘTORTėOCK SALTğ-2ĖSAL-AMMONIACęTĚ OF ANTIMONY",
    "ĞCOPPER ANTIMONIATEėCEPTER OF JOVEėILVERėOAPėPIRITėTARRED TRIDENTĘRATUM SUPER STRATUMī-2ėUBLIMAT",
    "E OF ANTIMONYģCOPPERģSALT OF ANTIMONYīCOPPERĞIONĘLFURĖTARTARĜ-2ėIN OREęCTUREėRIDENTėUTTYĖURINEĖV",
    "ERDIGRISėINEGARĝ OF ANTIMONYĝ-2Ğ3ĘTRIOLĝ-2ĖWATERĘXĂEF SYMBOLăMBICăRTĂIEN MONSTERĂL AROUND-PROFIL",
    "EĄEQUAL TOĂMăOST EQUAL OR EQUAL TOčTOď WITH CIRCUMFLEX ACCENTĂTERNATE ONE-WAY LEFT WAY TRAFFICĈI",
    "VE KEY SYMBOLāMALGAMATION OR COPRODUCTĂBULANCEĂERICAN FOOTBALLĂPERSANDăHORAāNATOLIAN HIEROGLYPH ",
    "A001Ę2Ę3Ę4Ę5Ę6Ę7Ę8Ę9ė10ęAĘ1Ę2Ę3Ę4Ę5Ę6Ę7Ę8Ę9ė20Ę1Ę2Ę3Ę4Ę5Ę6ęAĘ7Ę8Ę9ė30Ę1Ę2Ę3Ę4Ę5Ę6Ę7Ę8Ę9ęAė40Ę1ęA",
    "Ę2Ę3Ę4Ę5ęAĘ6ęAęBĘ7Ę8Ę9ė50Ę1Ę2Ę3Ę4Ę5Ę6Ę7Ę8Ę9ė60Ę1Ę2Ę3Ę4Ę5Ę6ęAęBęCĘ7Ę8Ę9ė70Ę1Ę2Ę3Ę4Ę5Ę6Ę7Ę8Ę9ė80Ę1",
    "Ę2Ę3Ę4Ę5Ę6Ę7Ę8Ę9ė90Ę1Ę2Ę3Ę4Ę5Ę6Ę7ęAĘ8ęAĘ9Ė100ęAĘ1ęAĘ2ęAĘ3Ę4ęAęBęCĘ5ęAęBĘ6Ę7ęAęBęCĘ8Ę9ė10ęAęBĘ1Ę2",
    "Ę3Ę4Ę5ęAĘ6Ę7Ę8Ę9ė20Ę1Ę2Ę3Ę4Ę5ęAĘ6Ę7Ę8Ę9ė30Ę1Ę2Ę3Ę4Ę5ęAĘ6Ę7Ę8Ę9ė40Ę1Ę2Ę3Ę4Ę5Ę6Ę7Ę8Ę9ė50Ę1Ę2Ę3Ę4Ę5",
    "Ę6Ę7Ę8Ę9ė60Ę1Ę2Ę3Ę4Ę5Ę6Ę7Ę8Ę9ė70Ę1Ę2Ę3Ę4Ę5Ę6Ę7Ę8Ę9ė80Ę1Ę2Ę3Ę4Ę5Ę6Ę7Ę8Ę9ė90Ę1Ę2Ę3Ę4Ę5Ę6Ę7Ę8Ę9Ė200",
    "Ę1Ę2ęAęBĘ3Ę4Ę5Ę6Ę7ęAĘ8Ę9ęAė10Ę1Ę2Ę3Ę4Ę5ęAĘ6ęAĘ7Ę8Ę9ė20Ę1Ę2Ę3Ę4Ę5Ę6Ę7ęAĘ8Ę9ė30Ę1Ę2Ę3Ę4Ę5Ę6Ę7Ę8Ę9ė",
    "40Ę1Ę2Ę3Ę4Ę5Ę6Ę7Ę8Ę9ė50Ę1Ę2Ę3Ę4Ę5Ę6Ę7Ę8Ę9ė60Ę1Ę2Ę3Ę4Ę5Ę6Ę7ęAĘ8Ę9ė70Ę1Ę2Ę3Ę4Ę5Ę6Ę7Ę8Ę9ė80Ę1Ę2Ę3Ę4",
    "Ę5Ę6Ę7Ę8Ę9ęAė90Ę1Ę2Ę3Ę4ęAĘ5Ę6Ę7Ę8Ę9ęAĖ300Ę1Ę2Ę3Ę4Ę5Ę6Ę7Ę8Ę9ęAė10Ę1Ę2Ę3Ę4Ę5Ę6Ę7Ę8Ę9ė20Ę1Ę2Ę3Ę4Ę5Ę",
    "6Ę7Ę8Ę9ęAė30Ę1Ę2AęBęCĘ3Ę4Ę5Ę6ęAęBęCĘ7Ę8Ę9ė40Ę1Ę2Ę3Ę4Ę5Ę6Ę7Ę8Ę9ė50Ę1Ę2Ę3Ę4Ę5Ę6Ę7Ę8Ę9ęAė60Ę1Ę2Ę3Ę4",
    "ęAĘ5Ę6Ę7Ę8ęAĘ9ė70Ę1ęAĘ2Ę3Ę4Ę5Ę6Ę7Ę8Ę9ė80Ę1ęAĘ2Ę3 RA OR RIęAĘ4Ę5Ę6ęAĘ7Ę8Ę9ė90Ę1Ę2Ę3 EIGHTĘ4Ę5Ę6Ę7",
    "Ę8Ę9Ė400Ę1Ę2Ę3Ę4Ę5Ę6Ę7Ę8Ę9ė10 BEGIN LOGOGRAM MARKęA END LOGOGRAM MARKĘ1Ę2Ę3Ę4Ę5Ę6Ę7Ę8Ę9ė20Ę1Ę2Ę3",
    "Ę4Ę5Ę6Ę7Ę8Ę9ė30Ę1Ę2Ę3Ę4Ę5Ę6Ę7Ę8Ę9ė40Ę1Ę2Ę3Ę4Ę5Ę6Ę7Ę8Ę9ė50ęAĘ1Ę2Ę3Ę4Ę5Ę6Ę7ęAĘ8Ę9ė60Ę1Ę2Ę3Ę4Ę5Ę6Ę7",
    "Ę8Ę9ė70Ę1Ę2Ę3Ę4Ę5Ę6Ę7Ę8Ę9ė80Ę1Ę2Ę3Ę4Ę5Ę6Ę7Ę8Ę9ė90Ę1Ę2Ę3Ę4Ę5Ę6Ę7Ė501Ę2Ę3Ę4Ę5Ę6Ę7Ę8Ę9ė10Ę1Ę2Ę3Ę4Ę5",
    "Ę6Ę7Ę8Ę9ė20Ę1Ę2Ę3Ę4Ę5Ę6Ę7Ę8Ę9ė30ąMICAL HEARTĂCHORĂD WITH DOTĂGER SYMBOLăLEą WITH S INSIDEċUNDERB",
    "ARăRY FACEăSTROM SIGNăUISHED FACEĂKHĂTăENNA WITH BARSăICLOCKWISE CLOSED CIRCLE ARROWďONTOUR INTE",
    "GRALĎDOWNWARDS AND UPWARDS OPEN CIRCLE ARROWSĎGAPPED CIRCLE ARROWĎINTEGRATIONĎOPEN CIRCLE ARROWĎ",
    "TOP SEMICIRCLE ARROWďRIANGLE-HEADED BOTTOM U-SHAPED ARROWĞLEFT U-SHAPED ARROWĞOPEN CIRCLE ARROWĞ",
    "RIGHT U-SHAPED ARROWĞTOP U-SHAPED ARROWāPCĂL FUNCTIONAL SYMBOL ALPHAě UNDERBARĖBACKSLASH BARĖCIR",
    "CLE BACKSLASHĝDIAERESISĝJOTĝSTARğILEĝUNDERBARėOMMA BARĖDEL DIAERESISĚSTILEĚTILDEęTA STILEĜUNDERB",
    "ARėIAMOND UNDERBARėOWN CARET TILDEěSHOE STILEěTACK JOTĠUNDERBARĚWARDS VANEĖEPSILON UNDERBARĖGREA",
    "TER-THAN DIAERESISĖI-BEAMėOTAĚ UNDERBARĖJOT DIAERESISĚUNDERBARĖLEFT SHOE STILEĚWARDS VANEĖOMEGAě",
    " UNDERBARĖQUADĚ BACKSLASHěCIRCLEĜOLONěDELĞTAĜIAMONDĝVIDEĜOWN CARETğWARDS ARROWěEQUALěGREATER-THA",
    "NěJOTěLEFTWARDS ARROWĝSS-THANěNOT EQUALěQUESTIONěRIGHTWARDS ARROWěSLASHěUP CARETĝWARDS ARROWĘOTE",
    " QUADĜUNDERBARĖRHOėIGHTWARDS VANEĖSEMICOLON UNDERBARėLASH BARėQUISH QUADėTAR DIAERESISĘILE TILDE",
    "ĖTILDE DIAERESISĖUP CARET TILDEęSHOE JOTęTACK DIAERESISĞJOTĞOVERBARĘWARDS VANEĖZILDEĂOLLONăSTROP",
    "HEĂPLICATION PROGRAM COMMANDăROACHES THE LIMITąXIMATELY BUT NOT ACTUALLY EQUAL TOĎEQUAL OR EQUAL",
    " TOĔTOĖ OR THE IMAGE OFāQUARIUSāRABIC BASELINE ROUND DOTćCOMMAĈURLY DAMMAĒTANčFATHAĒTANčKASRAĒTA",
    "NćDAMMAČ ISOLATED FORMčMEDIAL FORMčWITH DOTČTANď ISOLATED FORMĉTE SEPARATORĈECIMAL SEPARATORĈISP",
    "UTED END OF AYAHĈOUBLE RIGHT ARROWHEAD ABOVEģ WITH DOTčD MADDAćEMPTY CENTRE HIGH STOPĔLOW STOPĈN",
    "D OF AYAHĎTEXT MARKćFATHAČ ISOLATED FORMčMEDIAL FORMčWITH DOT ABOVEĒRINGĒTWO DOTSČTANď ISOLATED ",
    "FORMĈIVE POINTED STARĈOOTNOTE MARKERĈULL STOPćHALF MADDA OVER MADDAĉMZA ABOVEčBELOWćINVERTED DAM",
    "MAćKASRAČ ISOLATED FORMčMEDIAL FORMčWITH DOT BELOWČTANď ISOLATED FORMćLARGE CIRCLE BELOWčROUND D",
    "OT ABOVEėBELOWėINSIDE CIRCLE BELOWĈEFT ARROWHEAD ABOVEĖBELOWĉTTER AEďFRICAN FEHĖNOONĖQAFę WITH T",
    "HREE DOTS ABOVEďINđ FINAL FORMĒINITIAL FORMēSOLATED FORMĒMEDIAL FORMĒWITH THREE DOTS ABOVEĢBELOW",
    "ĢPOINTING DOWNWARDS ABOVEĘWO DOTS ABOVEĠVERTICALLY ABOVEďLEFĒ FINAL FORMēISOLATED FORMēMAKSURAĚ ",
    "FINAL FORMěISOLATED FORMēWASLAĘ FINAL FORMęISOLATED FORMĔITH ATTACHED BOTTOM RIGHT KASRAĳ AND DO",
    "T ABOVEĸLEFT RINGġFATHAġKASRAġLEFT HAMZAĦROUND DOTġRIGHT HAMZAħROUND DOTĢOUND DOT ABOVEīBELOWġTO",
    "P RIGHT FATHAİ AND DOT ABOVEĵLEFT RINGĘDOT ABOVEĘEXTENDED ARABIC-INDIC DIGIT THREE ABOVEĵWO ABOV",
    "EĘHAMZA ABOVEģ FINAL FORMĤISOLATED FORMĞBELOWģ FINAL FORMĤISOLATED FORMĘLEFT MIDDLE STROKEĘMADDA",
    " ABOVEģ FINAL FORMĤISOLATED FORMĘRIGHT MIDDLE STROKEī AND DOT ABOVEİLEFT RINGĘWAVY HAMZA ABOVEģB",
    "ELOWĎBEEHĒ FINAL FORMēINITIAL FORMĔSOLATED FORMēMEDIAL FORMĐHđ FINAL FORMĒINITIAL FORMēSOLATED F",
    "ORMĒMEDIAL FORMĒWITH DOT BELOW AND THREE DOTS ABOVEėHAMZA ABOVEėINVERTED SMALL V BELOWėSMALL MEE",
    "M ABOVEĝVĞ BELOWėTHREE DOTS HORIZONTALLY BELOWĢPOINTING UPWARDS BELOWĸ AND TWO DOTS ABOVEĘWO DOT",
    "S BELOW AND DOT ABOVEđEHē FINAL FORMĔINITIAL FORMĕSOLATED FORMĔMEDIAL FORMĎDADđ FINAL FORMĒINITI",
    "AL FORMēSOLATED FORMĒMEDIAL FORMĒWITH DOT BELOWĐHALē FINAL FORMĔISOLATED FORMĐLđ FINAL FORMĒISOL",
    "ATED FORMĒWITH DOT BELOWĠ AND SMALL TAHėFOUR DOTS ABOVEėINVERTED SMALL V BELOWĠVėRINGėTHREE DOTS",
    " ABOVE DOWNWARDSĢBELOWĘWO DOTS VERTICALLY BELOW AND SMALL TAHďDAHALĔ FINAL FORMĕISOLATED FORMđLĒ",
    " FINAL FORMēISOLATED FORMďOTLESS BEHĖFEHĖQAFďULđ FINAL FORMĒISOLATED FORMďYEHĒ FINAL FORMēINITIA",
    "L FORMĔSOLATED FORMēMEDIAL FORMĎEď FINAL FORMĐINITIAL FORMđSOLATED FORMĐMEDIAL FORMĎFARSI YEHė F",
    "INAL FORMĘINITIAL FORMęSOLATED FORMĘMEDIAL FORMĘWITH EXTENDED ARABIC-INDIC DIGIT FOUR BELOWĹTHRE",
    "E ABOVEĺWO ABOVEĝINVERTED VĝTHREE DOTS ABOVEĞWO DOTS ABOVEďEHđ FINAL FORMĒINITIAL FORMēSOLATED F",
    "ORMĒMEDIAL FORMĒWITH DOT BELOWĠ AND THREE DOTS ABOVEěMOVED BELOWėTHREE DOTS BELOWĢPOINTING UPWAR",
    "DS BELOWĘWO DOTS BELOWĎGAFđ FINAL FORMĒINITIAL FORMēSOLATED FORMĒMEDIAL FORMĒWITH INVERTED STROK",
    "EėRINGėTHREE DOTS ABOVEĘWO DOTS BELOWďHAINē FINAL FORMĔINITIAL FORMĕSOLATED FORMĔMEDIAL FORMĔWIT",
    "H DOT BELOWęTHREE DOTS ABOVEďRAFďUEHĒ FINAL FORMēINITIAL FORMĔSOLATED FORMēMEDIAL FORMĎHAHđ FINA",
    "L FORMĒINITIAL FORMēSOLATED FORMĒMEDIAL FORMĒWITH EXTENDED ARABIC-INDIC DIGIT FOUR BELOWėHAMZA A",
    "BOVEėINVERTED SMALL V BELOWėSMALL ARABIC LETTER TAH ABOVEİND TWO DOTSįBELOWėTHREE DOTS ABOVEĢPOI",
    "NTING UPWARDS BELOWĘWO DOTS ABOVEĠVERTICAL ABOVEĐMZAē ISOLATED FORMďEHđ DOACHASHMEEĝ FINAL FORMĞ",
    "INITIAL FORMğSOLATED FORMĞMEDIAL FORMĒFINAL FORMĒGOALĖ FINAL FORMėINITIAL FORMĘSOLATED FORMėMEDI",
    "AL FORMėWITH HAMZA ABOVEĒINITIAL FORMēSOLATED FORMĒMEDIAL FORMĒWITH INVERTED VėYEH ABOVEĠ FINAL ",
    "FORMġISOLATED FORMďIGH HAMZAĘ ALEFęWAWęYEHĎJEEMĒ FINAL FORMēINITIAL FORMĔSOLATED FORMēMEDIAL FOR",
    "MēWITH THREE DOTS ABOVEģBELOWęWO DOTS ABOVEĐHđ FINAL FORMĒISOLATED FORMĎKAFđ FINAL FORMĒINITIAL ",
    "FORMēSOLATED FORMĒMEDIAL FORMĒWITH DOT ABOVEěBELOWėRINGėTHREE DOTS BELOWĘWO DOTS ABOVEĐSHMIRI YE",
    "HďEHEHē FINAL FORMĔINITIAL FORMĕSOLATED FORMĔMEDIAL FORMĔWITH DOT ABOVEęSMALL VęTHREE DOTS ABOVE",
    "ĤBELOWĤPOINTING UPWARDS BELOWĚWO DOTS ABOVEĢVERTICALLY BELOWďHAHĒ FINAL FORMēINITIAL FORMĔSOLATE",
    "D FORMēMEDIAL FORMďIRGHIZ OEĘ FINAL FORMęISOLATED FORMĖYUĘ FINAL FORMęISOLATED FORMĎLAMđ FINAL F",
    "ORMĒINITIAL FORMēSOLATED FORMĒMEDIAL FORMĒWITH BARėDOT ABOVEęUBLE BARėSMALL ARABIC LETTER TAH AB",
    "OVEĝVėTHREE DOTS ABOVEĢBELOWďOW ALEFĎMARKďEEMĒ FINAL FORMēINITIAL FORMĔSOLATED FORMēMEDIAL FORMē",
    "WITH DOT ABOVEĜBELOWĘTHREE DOTS ABOVEĎNGĐ FINAL FORMđINITIAL FORMĒSOLATED FORMđMEDIAL FORMĐOEHē ",
    "FINAL FORMĔINITIAL FORMĕSOLATED FORMĔMEDIAL FORMďOONĒ FINAL FORMēGHUNNAę FINAL FORMĚISOLATED FOR",
    "MēINITIAL FORMĔSOLATED FORMēMEDIAL FORMēWITH DOT BELOWĘINVERTED SMALL VĘRINGĘSMALL TAHĞVĘTHREE D",
    "OTS ABOVEęWO DOTS BELOWďYEHĒ FINAL FORMēINITIAL FORMĔSOLATED FORMēMEDIAL FORMĎOEĐ FINAL FORMđISO",
    "LATED FORMĎPEHđ FINAL FORMĒINITIAL FORMēSOLATED FORMĒMEDIAL FORMĒWITH SMALL MEEM ABOVEĝVđEHē FIN",
    "AL FORMĔINITIAL FORMĕSOLATED FORMĔMEDIAL FORMĎQAFđ FINAL FORMĒINITIAL FORMēSOLATED FORMĒMEDIAL F",
    "ORMĒWITH DOT ABOVEěBELOWĠ AND NO DOTS ABOVEėTHREE DOTS ABOVEĎREHđ FINAL FORMĒISOLATED FORMĒWITH ",
    "DOT BELOWĠ AND DOT ABOVEėFOUR DOTS ABOVEėHAMZA ABOVEėINVERTED VėLOOPėRINGėSMALL ARABIC LETTER TA",
    "H AND TWO DOTSĝNOON ABOVEĝVĞ BELOWĘTROKEėTWO DOTS ABOVEĠVERTICALLY ABOVEďNOONē FINAL FORMĔINITIA",
    "L FORMĕSOLATED FORMĔMEDIAL FORMďOHINGYA YEHďREHĒ FINAL FORMēISOLATED FORMĎSADđ FINAL FORMĒINITIA",
    "L FORMēSOLATED FORMĒMEDIAL FORMĒWITH THREE DOTS ABOVEĢBELOWĘWO DOTS BELOWďEENĒ FINAL FORMēINITIA",
    "L FORMĔSOLATED FORMēMEDIAL FORMēWITH DOT BELOW AND DOT ABOVEĘEXTENDED ARABIC-INDIC DIGIT FOUR AB",
    "OVEĘFOUR DOTS ABOVEĘINVERTED VĘSMALL ARABIC LETTER TAH AND TWO DOTSĘTHREE DOTS BELOWĨ AND THREE ",
    "DOTS ABOVEęWO DOTS VERTICALLY ABOVEďHEENē FINAL FORMĔINITIAL FORMĕSOLATED FORMĔMEDIAL FORMĔWITH ",
    "DOT BELOWďTRAIGHT WAWďUPERSCRIPT ALEFďWASH KAFĎTAHđ FINAL FORMĒINITIAL FORMēSOLATED FORMĒMEDIAL ",
    "FORMĒWITH DOT BELOWėTHREE DOTS ABOVEĢBELOWĘWO DOTS ABOVEďCHEHē FINAL FORMĔINITIAL FORMĕSOLATED F",
    "ORMĔMEDIAL FORMĔWITH DOT ABOVEęSMALL VēEHĕ FINAL FORMĖINITIAL FORMėSOLATED FORMĖMEDIAL FORMďEHđ ",
    "FINAL FORMĒINITIAL FORMēSOLATED FORMĒMARBUTAę FINAL FORMĚGOALĚISOLATED FORMēEDIAL FORMĒWITH RING",
    "ėSMALL TEH ABOVEĝVėTHREE DOTS ABOVE DOWNWARDSđEHē FINAL FORMĔINITIAL FORMĕSOLATED FORMĔMEDIAL FO",
    "RMďHALĒ FINAL FORMēISOLATED FORMĐEHĒ FINAL FORMēINITIAL FORMĔSOLATED FORMēMEDIAL FORMĐIN YEHďTEH",
    "Ē FINAL FORMēINITIAL FORMĔSOLATED FORMēMEDIAL FORMēWITH SMALL VĒEHĔ FINAL FORMĕINITIAL FORMĖSOLA",
    "TED FORMĕMEDIAL FORMĎUď FINAL FORMĐISOLATED FORMĐWITH HAMZA ABOVEĠ ISOLATED FORMďIGHUR KAZAKH KI",
    "RGHIZ ALEF MAKSURA INITIAL FORMıMEDIAL FORMĎVEĐ FINAL FORMđISOLATED FORMĐHđ FINAL FORMĒINITIAL F",
    "ORMēSOLATED FORMĒMEDIAL FORMĎWAWđ FINAL FORMĒISOLATED FORMĒWITH DOT ABOVEěWITHINėEXTENDED ARABIC",
    "-INDIC DIGIT THREE ABOVEĴWO ABOVEėHAMZA ABOVEĢ FINAL FORMģISOLATED FORMėRINGėTWO DOTS ABOVEĎYEHđ",
    " BARREEĘ FINAL FORMęISOLATED FORMęWITH EXTENDED ARABIC-INDIC DIGIT THREE ABOVEĻWO ABOVEĞHAMZA AB",
    "OVEĩ FINAL FORMĪISOLATED FORMĒFINAL FORMĒINITIAL FORMēSOLATED FORMĒMEDIAL FORMĒWITH HAMZA ABOVEĢ",
    " FINAL FORMģINITIAL FORMĤSOLATED FORMģMEDIAL FORMėSMALL VėTAILĘHREE DOTS BELOWĘWO DOTS BELOW AND",
    " DOT ABOVEĪHAMZA ABOVEĪSMALL NOON ABOVEďUĐ FINAL FORMđISOLATED FORMĎZAHđ FINAL FORMĒINITIAL FORM",
    "ēSOLATED FORMĒMEDIAL FORMĐINĒ FINAL FORMēISOLATED FORMēWITH INVERTED V ABOVEĈIGATURE AIN WITH AL",
    "EF MAKSURA FINAL FORMĦISOLATED FORMęJEEM INITIAL FORMğSOLATED FORMĞWITH MEEM FINAL FORMĨINITIAL ",
    "FORMęMEEM INITIAL FORMğSOLATED FORMĞWITH ALEF MAKSURA FINAL FORMģMEEM FINAL FORMĨINITIAL FORMģYE",
    "H FINAL FORMęYEH FINAL FORMĝISOLATED FORMđKBAR ISOLATED FORMđLAYHAA AS-SALAAMĕE ISOLATED FORMĕI ",
    "AS-SALAAMğTU WAS-SALAAMĖM AS-SALAAMėAA AS-SALAAMĒEF MAKSURA WITH SUPERSCRIPT ALEF FINAL FORMĳISO",
    "LATED FORMĕWITH FATHATAN FINAL FORMģISOLATED FORMĒLAH ISOLATED FORMđZZA WA JALLĐBEH WITH ALEF MA",
    "KSURA FINAL FORMĦISOLATED FORMęHAH INITIAL FORMĞSOLATED FORMĝWITH YEH FINAL FORMĚEH INITIAL FORM",
    "ĝMEDIAL FORMęJEEM INITIAL FORMğSOLATED FORMęKHAH INITIAL FORMğSOLATED FORMĞWITH YEH FINAL FORMęM",
    "EEM FINAL FORMĞINITIAL FORMğSOLATED FORMĞMEDIAL FORMęNOON FINAL FORMęREH FINAL FORMęYEH FINAL FO",
    "RMĝISOLATED FORMęZAIN FINAL FORMđISMILLAH AR-RAHMAN AR-RAHEEMĐDAD WITH ALEF MAKSURA FINAL FORMĦI",
    "SOLATED FORMęHAH INITIAL FORMĞSOLATED FORMĝWITH ALEF MAKSURA FINAL FORMĢYEH FINAL FORMęJEEM INIT",
    "IAL FORMğSOLATED FORMęKHAH INITIAL FORMğSOLATED FORMĞWITH MEEM FINAL FORMĨINITIAL FORMęMEEM INIT",
    "IAL FORMğSOLATED FORMęREH FINAL FORMĝISOLATED FORMęYEH FINAL FORMĝISOLATED FORMĐFEH WITH ALEF MA",
    "KSURA FINAL FORMĦISOLATED FORMęHAH INITIAL FORMĞSOLATED FORMęJEEM INITIAL FORMğSOLATED FORMęKHAH",
    " INITIAL FORMğSOLATED FORMĞWITH MEEM FINAL FORMĨINITIAL FORMęMEEM INITIAL FORMğSOLATED FORMĞWITH",
    " YEH FINAL FORMęYEH FINAL FORMĝISOLATED FORMĐGHAIN WITH ALEF MAKSURA FINAL FORMĨISOLATED FORMěJE",
    "EM INITIAL FORMġSOLATED FORMěMEEM INITIAL FORMġSOLATED FORMĠWITH ALEF MAKSURA FINAL FORMĥMEEM FI",
    "NAL FORMĥYEH FINAL FORMěYEH FINAL FORMğISOLATED FORMĐHAH WITH ALEF MAKSURA FINAL FORMĦISOLATED F",
    "ORMęJEEM INITIAL FORMğSOLATED FORMĞWITH YEH FINAL FORMęMEEM INITIAL FORMğSOLATED FORMĞWITH ALEF ",
    "MAKSURA FINAL FORMģYEH FINAL FORMęYEH FINAL FORMĝISOLATED FORMđEH WITH ALEF MAKSURA ISOLATED FOR",
    "MęJEEM INITIAL FORMğSOLATED FORMęMEEM INITIAL FORMğSOLATED FORMĞWITH JEEM INITIAL FORMģMEEM INIT",
    "IAL FORMęSUPERSCRIPT ALEF INITIAL FORMęYEH ISOLATED FORMĐJALLAJALALOUHOUđEEM WITH ALEF MAKSURA F",
    "INAL FORMħISOLATED FORMĚHAH INITIAL FORMğSOLATED FORMĞWITH ALEF MAKSURA FINAL FORMģYEH FINAL FOR",
    "MĚMEEM INITIAL FORMĠSOLATED FORMğWITH ALEF MAKSURA FINAL FORMĤHAH FINAL FORMĨINITIAL FORMĤYEH FI",
    "NAL FORMĚYEH FINAL FORMĞISOLATED FORMĐKAF WITH ALEF FINAL FORMĞISOLATED FORMĞMAKSURA FINAL FORMĦ",
    "ISOLATED FORMęHAH INITIAL FORMĞSOLATED FORMęJEEM INITIAL FORMğSOLATED FORMęKHAH INITIAL FORMğSOL",
    "ATED FORMęLAM FINAL FORMĝINITIAL FORMĞSOLATED FORMĝMEDIAL FORMęMEEM FINAL FORMĞINITIAL FORMğSOLA",
    "TED FORMĞMEDIAL FORMĞWITH MEEM FINAL FORMĨINITIAL FORMģYEH FINAL FORMęYEH FINAL FORMĝISOLATED FO",
    "RMđHAH WITH ALEF MAKSURA FINAL FORMħISOLATED FORMĚHAH ISOLATED FORMĚJEEM INITIAL FORMĠSOLATED FO",
    "RMĚMEEM INITIAL FORMĠSOLATED FORMĚYEH FINAL FORMĞISOLATED FORMĐLAM WITH ALEF FINAL FORMĞISOLATED",
    " FORMĞMAKSURA FINAL FORMĦISOLATED FORMĞWITH HAMZA ABOVE FINAL FORMįISOLATED FORMĩBELOW FINAL FOR",
    "MįISOLATED FORMģMADDA ABOVE FINAL FORMįISOLATED FORMęHAH INITIAL FORMĞSOLATED FORMĝWITH ALEF MAK",
    "SURA FINAL FORMĢMEEM FINAL FORMħINITIAL FORMĢYEH FINAL FORMĚEH INITIAL FORMęJEEM INITIAL FORMğSO",
    "LATED FORMĞWITH JEEM FINAL FORMĨINITIAL FORMģMEEM FINAL FORMĨINITIAL FORMģYEH FINAL FORMęKHAH IN",
    "ITIAL FORMğSOLATED FORMĞWITH MEEM FINAL FORMĨINITIAL FORMęMEEM FINAL FORMĞINITIAL FORMğSOLATED F",
    "ORMĞMEDIAL FORMĞWITH HAH FINAL FORMħINITIAL FORMģYEH FINAL FORMęYEH FINAL FORMĝISOLATED FORMĐMEE",
    "M WITH ALEF FINAL FORMğMAKSURA ISOLATED FORMĚHAH INITIAL FORMğSOLATED FORMĞWITH JEEM INITIAL FOR",
    "MģMEEM INITIAL FORMģYEH FINAL FORMĚJEEM INITIAL FORMĠSOLATED FORMğWITH HAH INITIAL FORMĤKHAH INI",
    "TIAL FORMĤMEEM INITIAL FORMĤYEH FINAL FORMĚKHAH INITIAL FORMĠSOLATED FORMğWITH JEEM INITIAL FORM",
    "ĤMEEM INITIAL FORMĤYEH FINAL FORMĚMEEM FINAL FORMğINITIAL FORMĠSOLATED FORMğWITH YEH FINAL FORMĚ",
    "YEH ISOLATED FORMđOHAMMAD ISOLATED FORMĐNOON WITH ALEF MAKSURA FINAL FORMħISOLATED FORMĚHAH INIT",
    "IAL FORMğSOLATED FORMĞWITH ALEF MAKSURA FINAL FORMģMEEM INITIAL FORMģYEH FINAL FORMěEH INITIAL F",
    "ORMĞMEDIAL FORMĚJEEM INITIAL FORMĠSOLATED FORMğWITH ALEF MAKSURA FINAL FORMĤHAH FINAL FORMĨINITI",
    "AL FORMĤMEEM FINAL FORMĩINITIAL FORMĤYEH FINAL FORMĚKHAH INITIAL FORMĠSOLATED FORMĚMEEM FINAL FO",
    "RMğINITIAL FORMĠSOLATED FORMğMEDIAL FORMğWITH ALEF MAKSURA FINAL FORMĤYEH FINAL FORMĚNOON FINAL ",
    "FORMĚREH FINAL FORMĚYEH FINAL FORMĞISOLATED FORMĚZAIN FINAL FORMĐQAF WITH ALEF MAKSURA FINAL FOR",
    "MĦISOLATED FORMęHAH INITIAL FORMĞSOLATED FORMęMEEM INITIAL FORMğSOLATED FORMĞWITH HAH FINAL FORM",
    "ħINITIAL FORMģMEEM FINAL FORMģYEH FINAL FORMęYEH FINAL FORMĝISOLATED FORMĒLA USED AS KORANIC STO",
    "P SIGN ISOLATED FORMđUDDISA SIRRAHĐRADI ALLAAHU ANHĠAAĠUMĢAAġNNAĒHIMAHU ALLAAHĘM ALLAAHĒSOUL ISO",
    "LATED FORMđEH WITH SUPERSCRIPT ALEF ISOLATED FORMĐSAD WITH ALEF MAKSURA FINAL FORMĦISOLATED FORM",
    "ęHAH INITIAL FORMĞSOLATED FORMĝWITH HAH FINAL FORMĦINITIAL FORMĢYEH FINAL FORMęKHAH INITIAL FORM",
    "ęMEEM INITIAL FORMğSOLATED FORMĞWITH MEEM FINAL FORMĨINITIAL FORMęREH FINAL FORMĝISOLATED FORMęY",
    "EH FINAL FORMĝISOLATED FORMĒLAAMUHU ALAYNAAĔM ISOLATED FORMēLA ISOLATED FORMĖUSED AS KORANIC STO",
    "P SIGN ISOLATED FORMĕLLAAHU ALAYHI WA-AALIHĘHOU ALAYHE WASALLAMęU ALAYHI WAAALIHEE WA-SALLAMđEEN",
    " WITH ALEF MAKSURA FINAL FORMħISOLATED FORMĚHAH INITIAL FORMğSOLATED FORMĞMEDIAL FORMĞWITH JEEM ",
    "INITIAL FORMěEH INITIAL FORMĞMEDIAL FORMĚJEEM INITIAL FORMĠSOLATED FORMğMEDIAL FORMğWITH ALEF MA",
    "KSURA FINAL FORMĤHAH INITIAL FORMĚKHAH INITIAL FORMĠSOLATED FORMğMEDIAL FORMğWITH ALEF MAKSURA F",
    "INAL FORMĤYEH FINAL FORMĚMEEM INITIAL FORMĠSOLATED FORMğMEDIAL FORMğWITH HAH FINAL FORMĨINITIAL ",
    "FORMĤJEEM INITIAL FORMĤMEEM FINAL FORMĩINITIAL FORMĚREH FINAL FORMĞISOLATED FORMĚYEH FINAL FORMĞ",
    "ISOLATED FORMđHADDA WITH DAMMA ISOLATED FORMĢMEDIAL FORMġTAN ISOLATED FORMĜFATHA ISOLATED FORMĢM",
    "EDIAL FORMĜKASRA ISOLATED FORMĢMEDIAL FORMġTAN ISOLATED FORMĜSUPERSCRIPT ALEF ISOLATED FORMĒEEN ",
    "WITH ALEF MAKSURA FINAL FORMĨISOLATED FORMěHAH FINAL FORMğINITIAL FORMĠSOLATED FORMğMEDIAL FORMğ",
    "WITH MEEM FINAL FORMĩINITIAL FORMĤYEH FINAL FORMĜEH INITIAL FORMğMEDIAL FORMěJEEM FINAL FORMĠINI",
    "TIAL FORMġSOLATED FORMĠMEDIAL FORMĠWITH YEH FINAL FORMěKHAH FINAL FORMĠINITIAL FORMġSOLATED FORM",
    "ĠMEDIAL FORMěMEEM FINAL FORMĠINITIAL FORMġSOLATED FORMĠMEDIAL FORMĠWITH KHAH FINAL FORMĪINITIAL ",
    "FORMĥMEEM FINAL FORMĪINITIAL FORMěREH FINAL FORMğISOLATED FORMěYEH FINAL FORMğISOLATED FORMđUBHA",
    "ANAHU WA TAAALAAĐTABAARAKA WA-TAAALAAĒH WITH ALEF MAKSURA FINAL FORMĦISOLATED FORMęHAH INITIAL F",
    "ORMĞSOLATED FORMęMEEM INITIAL FORMğSOLATED FORMĞMEDIAL FORMĞWITH HAH FINAL FORMħINITIAL FORMģMEE",
    "M INITIAL FORMģYEH FINAL FORMęYEH FINAL FORMĝISOLATED FORMđEH WITH ALEF MAKSURA FINAL FORMĦISOLA",
    "TED FORMęHAH INITIAL FORMĞSOLATED FORMĝWITH JEEM FINAL FORMħINITIAL FORMĢMEEM INITIAL FORMĚEH IN",
    "ITIAL FORMĝMEDIAL FORMęJEEM INITIAL FORMğSOLATED FORMĞWITH ALEF MAKSURA FINAL FORMģMEEM INITIAL ",
    "FORMģYEH FINAL FORMęKHAH INITIAL FORMğSOLATED FORMĞWITH ALEF MAKSURA FINAL FORMģMEEM INITIAL FOR",
    "MģYEH FINAL FORMęMEEM FINAL FORMĞINITIAL FORMğSOLATED FORMĞMEDIAL FORMĞWITH ALEF MAKSURA FINAL F",
    "ORMģHAH INITIAL FORMģJEEM INITIAL FORMģKHAH INITIAL FORMģYEH FINAL FORMęNOON FINAL FORMęREH FINA",
    "L FORMęYEH FINAL FORMĝISOLATED FORMęZAIN FINAL FORMđHAL WITH SUPERSCRIPT ALEF ISOLATED FORMĒEH W",
    "ITH ALEF MAKSURA FINAL FORMħISOLATED FORMĚHEH MEDIAL FORMĚJEEM ISOLATED FORMĚMEEM FINAL FORMğINI",
    "TIAL FORMĠSOLATED FORMğMEDIAL FORMĚNOON FINAL FORMĚREH FINAL FORMĚYEH FINAL FORMĞISOLATED FORMĚZ",
    "AIN FINAL FORMĐUIGHUR KIRGHIZ YEH WITH HAMZA ABOVE WITH ALEF MAKSURA FINAL FORMņINITIAL FORMŇSOL",
    "ATED FORMĐWASALLAM ISOLATED FORMĐYEH WITH ALEF MAKSURA FINAL FORMĦISOLATED FORMęHAH INITIAL FORM",
    "ĞSOLATED FORMĝWITH YEH FINAL FORMěMZA ABOVE WITH AE FINAL FORMĭISOLATED FORMīLEF FINAL FORMįISOL",
    "ATED FORMįMAKSURA FINAL FORMķISOLATED FORMĪE FINAL FORMĬINITIAL FORMĭSOLATED FORMĪHAH INITIAL FO",
    "RMįSOLATED FORMīEH INITIAL FORMĮMEDIAL FORMĪJEEM INITIAL FORMİSOLATED FORMĪKHAH INITIAL FORMĪMEE",
    "M FINAL FORMįINITIAL FORMİSOLATED FORMįMEDIAL FORMĪNOON FINAL FORMĪOE FINAL FORMĭISOLATED FORMĪR",
    "EH FINAL FORMĪU FINAL FORMĬISOLATED FORMĪWAW FINAL FORMĮISOLATED FORMĪYEH FINAL FORMĮISOLATED FO",
    "RMīU FINAL FORMĭISOLATED FORMĪZAIN FINAL FORMĚEH INITIAL FORMĝMEDIAL FORMęJEEM INITIAL FORMğSOLA",
    "TED FORMĞWITH YEH FINAL FORMęKHAH INITIAL FORMğSOLATED FORMęMEEM FINAL FORMĞINITIAL FORMğSOLATED",
    " FORMĞMEDIAL FORMĞWITH MEEM FINAL FORMĨINITIAL FORMģYEH FINAL FORMęNOON FINAL FORMęREH FINAL FOR",
    "MęYEH FINAL FORMĝISOLATED FORMęZAIN FINAL FORMĐZAH WITH MEEM INITIAL FORMğSOLATED FORMĞMEDIAL FO",
    "RMćMADDA WAAJIBČH ABOVEĉRK NOON GHUNNAČSIDEWAYS NOON GHUNNAĉTHEMATICAL AINĕLEFĔBEHĔDADĖLĕOTLESS ",
    "BEHĜFEHĜNOONĜQAFĖUBLE-STRUCK AINĢBEHĢDADĤLĢFEHĢGHAINĢHAHĢJEEMĢKHAHĢLAMĢMEEMĢNOONĢQAFĢREHĢSADģEEN",
    "ģHEENĢTAHģEHģHALĤEHĢWAWĢYEHĢZAHĤINĔFEHĔGHAINĔHAHĔINITIAL AINĜBEHĜDADĜFEHĜGHAINĜHAHĝEHĜJEEMĜKAFĝH",
    "AHĜLAMĜMEEMĜNOONĜQAFĜSADĝEENĝHEENĜTEHĝHEHĜYEHĔJEEMĔKAFĕHAHĔLAMĕOOPED AINĜLEFěBEHěDADĝLěFEHěGHAIN",
    "ěHAHĜEHěJEEMěKHAHěLAMěMEEMěNOONěQAFěREHěSADĜEENĜHEENěTAHĜEHĜHALĝEHěWAWěYEHěZAHĝINĔMEEMĔNOONĔOPER",
    "ATOR HAH WITH DALĝMEEM WITH HAH WITH TATWEELĔQAFĔREHĔSADĕEENĕHEENĕTRETCHED AINĞBEHĞDADğOTLESS BE",
    "HĦFEHĞFEHĞGHAINĞHAHğEHĞJEEMĞKAFğHAHĞMEEMĞNOONĞQAFĞSADğEENğHEENĞTAHğEHğHEHĞYEHĞZAHĔTAHĖILED AINěD",
    "ADĜOTLESS NOONģQAFěGHAINěHAHěJEEMěKHAHěLAMěNOONěQAFěSADĜEENĜHEENěYEHĕEHĕHALĖEHĔWAWĔYEHĔZAHĖINćNU",
    "MBER MARK ABOVEĎSIGNćOPEN DAMMATANČFATHATANČKASRATANćPERCENT SIGNĈIASTRE MARK ABOVEĈLACE OF SAJD",
    "AHĈOETIC VERSE SIGNĉUND MARK ABOVEćQUESTION MARKćRAISED ROUND DOTĉYĈEVERSED DAMMAĈIGHT ARROWHEAD",
    " ABOVEĜ WITH DOTėBELOWĈOUNDED HIGH STOP WITH FILLED CENTREćSEMICOLONĈHADDAč ISOLATED FORMĎMEDIAL",
    " FORMĈIGN ALAYHE ASSALLAMČMISRAČRADI ALLAHOU ANHUĎHMATULLAH ALAYHEČSAFHAĎLLALLAHOU ALAYHE WASSAL",
    "LAMĎMVATĎNAHčINDHI AMPERSANDēPOSTPOSITION MENČTAKHALLUSĈMALL DAMMAčFARSI YEHďTHAčHIGH AINĒDOTLES",
    "S HEAD OF KHAHĒFARSI YEHēOOTNOTE MARKERĒJEEMĒLAM ALEFēIGATURE ALEF WITH LAM WITH YEHěQAF WITH LA",
    "M WITH ALEF MAKSURAěSAD WITH LAM WITH ALEF MAKSURAĒMADDAēEEM INITIAL FORMĘSOLATED FORMĒNOONĖ WIT",
    "H KASRAĒQAFĒROUNDED ZEROĒSADēEENēIGN SAFHAĒTAHēHREE DOTSĒUPRIGHT RECTANGULAR ZEROĒWAWēORD AL-JUZ",
    "ĘN-NISFĘR-RUBĘS-SAJDAĘTH-THALATHAėQIFėSAHęKTAėWAQFAĒYEHĕ BARREE WITH TWO DOTS BELOWĒZAHĔINčKASRA",
    "čLOW MEEMđNOON WITH KASRAđSEENđWAWĒORD IMAALAėSHMAAMĖTASHEELčWAWčYEHĈTART OF RUB EL HIZBĈUBSCRIP",
    "T ALEFĉKUNČ BELOWčISOLATED FORMčMEDIAL FORMĉPERSCRIPT ALEF MOKHASSASĈYMBOL DOT ABOVEĒBELOWĐUBLE ",
    "VERTICAL BAR BELOWĎFOUR DOTS ABOVEĘBELOWĎRINGĎSMALL TAH ABOVEĘBELOWĎTHREE DOTS ABOVEęBELOWęPOINT",
    "ING DOWNWARDS ABOVEĬBELOWďWO DOTS ABOVEėBELOWėVERTICALLY ABOVEĢBELOWĎWASLA ABOVEćTAIL FRAGMENTĉT",
    "WEELĎ WITH FATHATAN ABOVEĔOVERSTRUCK HAMZAğWAWĔTWO DOTS BELOWĈHOUSANDS SEPARATORĈONE LOOP ABOVEđ",
    "BELOWČONE DOT ABOVEĔBELOWČTWO DOTS ABOVEĕBELOWĈRIPLE DOT PUNCTUATION MARKĈURNED DAMMA BELOWćVERT",
    "ICAL TAILĈOWEL SIGN DOT BELOWĒINVERTED SMALL V ABOVEĒSMALL V ABOVEćWAVY HAMZA BELOWćZWARAKAYĆ-IN",
    "DIC CUBE ROOTčDIGIT EIGHTēFIVEĔOURēNINEēONEēSEVENĔIXēTHREEĔWOēZEROčFOURTH ROOTčPER MILLE SIGNđTE",
    "N THOUSAND SIGNĂCĂIESĂMENIAN ABBREVIATION MARKĊPOSTROPHEĉCAPITAL LETTER AYBĘBENĘCAęHAĚEHęOĘDAĘEC",
    "HęHęTĘFEHĘGHADęIMĘHOĘINIĘJAęHEHĘKEHĚNĘLIWNĘMENĘNOWĘOHĘPEHęIWRĘRAęEHĘSEHęHAĘTIWNęOĘVEWęOĘXEHĘYIĚW",
    "NĘZAęHEĊOMMAĉDRAM SIGNĉEMPHASIS MARKĊXCLAMATION MARKĉFULL STOPĉHYPHENĉMODIFIER LETTER LEFT HALF ",
    "RINGĉQUESTION MARKĉSMALL LETTER AYBĖBENĖCAėHAĘEHėOĖDAĖECHėHėTĖFEHĖGHADėIMĖHOĖINIĖJAėHEHĖKEHĘNĖLI",
    "WNĖMENĖNOWĖOHĖPEHėIWRĖRAėEHĖSEHėHAĖTIWNėOėURNED AYBĖVEWėOĖXEHĖYIĘ WITH STROKEĘWNĖZAėHEĐIGATURE E",
    "CH YIWNĘMEN ECHĜINIĜNOWĜXEHĘVEW NOWĂROW POINTING DOWNWARDS THEN CURVING LEFTWARDSĦRIGHTWARDSďRIG",
    "HTWARDS THEN CURVING DOWNWARDSħSOUTH WESTħUPWARDSďUPWARDS THEN NORTH WESTąHEAD-SHAPED POINTERĂTI",
    "CULATED LORRYĄST PALETTEāSCENDING NODEăIA SYMBOLĂSERTIONĂTERISKĈ OPERATORćMăONISHED FACEăRAEAĄON",
    "OMICAL SYMBOL FOR URANUSĂYMPTOTICALLY EQUAL TOāTHLETIC SHOEĂOM SYMBOLāUBERGINEĂSTRAL SIGNĂTO RIC",
    "KSHAWĄMATED TELLER MACHINEąOBILEāVESTAN ABBREVIATION MARKĈLETTER AĐAđNđOĐEđEĐNĐOďBEĐHEďCEďDEĐHEď",
    "EĐEďFEďGEĐGEĐHEďHEĐMEďIĐIďJEďKEďLEďMEďNEĐGEđVEđYEĐNEĐYEďOĐOďPEďREďSEĐHEđYEĐSHEďTEĐHEĐTEďUĐUďVEďX",
    "EĐVEĐYEďYEĐYEďZEĐHEĂOCADOāXEĀBABYĄ ANGELąBOTTLEąCHICKąSYMBOLĂCK OF ENVELOPEąWITH LEFTWARDS ARROW",
    " ABOVEĄ-TILTED SHADOWED WHITE RIGHTWARDS ARROWĄSLANTED SOUTH ARROW WITH HOOKED TAILğRIZONTAL TAI",
    "LąPACEăONăTRIAN CAMELĂDGERăMINTON RACQUET AND SHUTTLECOCKĂGELăGAGE CLAIMăUETTE BREADĂLINESE ADEG",
    " ADEGĉCARIK PAMUNGKAHđRERENďSIKIĉDIGIT EIGHTďFIVEĐOURďNINEďONEďSEVENĐIXďTHREEĐWOďZEROĉLETTER AIK",
    "ARAđKARAĕ TEDUNGđRCHAIC JNYAđSYURA SASAKĐBAĒ KEMBANGĐCAĒ LACAĐDAĒ MADUĔURDA ALPAPRANAęMAHAPRANAĐ",
    "EF SASAKđKARAĐGAĒ GORAĐHAĐIKARAĕ TEDUNGĐJAĒ JERAĐKAĒ MAHAPRANAĒF SASAKđHOT SASAKĐLAĒ LENGAĘ TEDU",
    "NGĐMAĐNAĒ RAMBATđGAđYAĐOKARAĕ TEDUNGĐPAĒ KAPALĐRAĒ REPAė TEDUNGĐSAĒ SAGAĕPAĐTAĒ LATIKēMURDA MAHA",
    "PRANAēTAWAđZIR SASAKĐUKARAĕ TEDUNGĐVE SASAKĐWAĐYAĐZAL SASAKĉMUSICAL SYMBOL COMBINING BENDEĢENDEP",
    "ĢGONGĢJEGOGANĢKEMPLIĨ WITH JEGOGANĦULĨ WITH JEGOGANĢTEGEHĘDAENGĚINGĚNGĜ GEDEĝSURANGęENGĚUNGęINGę",
    "ONGęUNGĘLEFT-HAND CLOSED PLAKīUKĢOPEN PANGĨINGĨUNGĘRIGHT-HAND CLOSED TAKīUKģOPEN DAGĩUGĉPAMADAď ",
    "LANTANGČENENGċNTIĎ LANTANGĉSIGN BISAHĎCECEKĎREREKANĎSURANGĎULU CANDRAĒRICEMĉVOWEL SIGN LA LENGAĜ",
    " TEDUNGĔPEPETę TEDUNGĔRA REPAě TEDUNGĔSUKUĘ ILUTĔTALINGĚ REPAğ TEDUNGěTEDUNGĕEDUNGĔULUė SARIĉWIN",
    "DUăL OF YARNĄET SHOESĄOONć-SPOKED ASTERISKąT BOLD SCRIPT XĉXĊ WITH BALLOTđOLD CHECKĕSCRIPT XĐCHE",
    "CKĐLIGHT XĐSCRIPT XĐXćSCRIPT XćXĂMUM COLONĈMBINING MARK KOQNDONĕTUKWENTISĉMAĆFULL STOPĆLETTER Ač",
    "EEčFAAMAEĎEEĎOMĎUčIčKAĎENďTďUXĎIĎOďGHOMďVUUĎPAĎUĎYEEčLAĎEEEEĎIĎOQĎUčMĎAĎBAAďENĎEEEEďNĎIĎOĎUčNAĎD",
    "AAĎGAďGAďKWAENĎIĎJAEMďEEďUAEĎSHAĎTEEďUUĎUďAEĎYIčOčPAĎEEďUXĎHASE-A FIRIĕGBIEE FONĖHEUAEGHEUAEěRAE",
    "ĕKAFAėQĖETėUKEUTNDAĖPOQĖUOQĕLAPAQĖET KUTĖOMMAEĖUėAEPĕMAEKEUPĘMęBGBIEEęKPENęVEUXĘNYIĘSIėNSUAEėP P",
    "IEETĖBANYIĘQĖEUNJOMNDEUQĖGBASAĖON NGGEUAETėOMEUTęPUQĖVEUAENGAMĕNAA MFONėQĖDA LEERAEWAĘANGGEUAETĖ",
    "ENĖGANGUėGENėKUE MFONĚNZEUMĖIKAĖJAMĖKAARAEėINDIĖSHAĘIEEĖTAPę MFAAĚNTAAėOQPENĖYETėIĘT MONGKEUAEQĖ",
    "ZA MFONėUN MEUTĕPA LEERAEWAėAMĘRAEėMSHAEėSHAEĖETĖON MFON PIPAEMBAĤGBIEEęPA NJI PIPAEMBAĦGBIEEĖUP",
    "ĕROMĕSEUNYAMĖHINDA PA NJIĘRAEėOQ NSHUT YUMėUENSHUETĘMĖISAĖONJAMėQėTĖUUĕTEUAENĘTEUWENĖITA MFONĖU ",
    "MAEMBAėAEPĕU YUQ NAEĖNKNOWNĕVEEēB FEEėUXĕGHEUGHENĜUAEMĕKAMĖEUAEMĘPUQĘYEUXĖIEEMėQĕLAANAEėM NSHUT ",
    "NYAMĖETĖOM NTEUMĕMAė NJEUAENAĚUQAĖBA MAELEEĘARAEėEURIėIT MBAAKETėUOQĖEUQĘT NGGEETĖFIYAQėON TEUAE",
    "QĖONTIEENĕNDU NJAAĖGGAAMĘEU MBUĘUOQě LARGEėKINDI MVOPėOMĖSENėHUETĖTIEE SHEUOQĖYAEMAEėI NTEUMĕPAR",
    "UMĖEESHIĖITĖUNGAAMĕSAKEUAEĖET TUĖHET NJAQĘUAEQTUĖIEEĖUEĕTAAMĖU MAEMGBIEEĘNSIEEĕVEUMĕWUAETĕYAFU L",
    "EERAEWAĖEURAEēC BUNGĕFUEĕGBAYIĖHAPĘRAEĕKAAĖEN FATIGUEęLAWėTėUKAQĘMĘSEUXęHEUAEPĖPARAQĖUOP NKAARAE",
    "ėTĕLAMėPĖIQĖUĕMA KEUAERIĘNSIEEėEMBAĘSIĖBAA CABBAGE-TREEĚPICKETĘNYIėEEKEETĘRAEĘUMęXėIĘRIEENĘTėUAE",
    "MĘEĖGBASAQĖIEEĖUAEĕNANSANAQėQĖDAMĘPėEUAEREEęTėIDAėOMBUĖGAQėGENĘUęAEN NYAMęEETęMęONėKAQĘUE MAEMBA",
    "ėOMĖJAEMĘMėEEEEĘUXėUEQĖSAėEUAENėHAQėOMėUNĘOT NGOMĖTAAėENĘUNGBAėU MBITĖYIR MKPARAQ MEUNĖZAėEUMĕPE",
    "NĖINėRIEENĕRUĕSETFONėUXĖHIQėUEQĖUAETĕTAASHAEĖETėUTEUXĖITA YUEĘUAEPĕVEUAEPENĘXĕWANGKUOQĖUPĕYAAĖEU",
    "QĖU MUOMAEėMėWOQēD FAAĖEUFEUAETĕGHAAėEUAEĕKETėUAETMEUNĘMĘOT MBUAEĘPĖUėNėOMėQĖWAETĖYEEĕLEEEEėTėUA",
    "EPĘMĖIEEĖOQĖUMĕMĖAENJETėLEERIĖBAAę SEVENėUOĖEEEEėUNĘTĖFEUAEęTėIEEėOĘNĖGBEUNĘIEEĘOFUMĖONIĖUĖVOPĕN",
    "DAMėEEĘUXėONĖGGAAMěAEęPĘEUXĘUOMĘWAENėKAPĘEUAEQĚRIĘIEEĘUNĘYEEĖIĖJAPėEUAEMęTėIĘEEėUEQĖSHEEĘUTėIEEP",
    "ĚTėUMĖTEEĘUMėUUĖUĖYAMėETėIėUEĕPAPĖEEėUTAEĖIPĖUQėUTĕRAEMĖEN MUCHęOLDĖIIĕSAPėQĖEUAEQĖHEEĘUAEęXėIIė",
    "OQėUĖOTĖUAEėEėUĕTAEĖEEEEėUAENĘNĘTĖIĖOQĖUėOTĕWAPĖUAENĕYAEMMAEĖENĖUOMĘPėWOQēE AĕFAėQĖEEĖOMĖU CALLĘ",
    "IĘREMEDYėEĘTĕGBETĘUXĖHAAMAEėETĘUAEęNęXėOMĕIĕKETėUAEĘXĖIĖOĖPEUXĖUETėOPėTĕLAAMėPėQĖEUAEMĖOMėONĘTėQ",
    "ĖUĕMAėEĘMėPėQĖBEEĘUMĖENĖFEUQĖGBAĘENĖIėEEĖONĖUAEĖVIĕNAėEĖDAA MY HOUSEĚSOFTNESSĘPėIAQĘQėUNĖGAėEURE",
    "UTėGEEEEęUAEĜTĘUAESHAE NYAMęPęRAEėKAęAMIĘEUAEMĚXĘUMęPėOPĘQėUAEĚTĖJAEMLIėEEę EPOCHĘUXĖKOMĖSHIEEĘU",
    "EęOPĖTAPėUMĖYI BETWEENęCLEAVERĖZAQėUQĕOĕPA PEOPLEęLURALėAĘMĖEEMėUTĘXĖIėEEQĘTĖOėONĖUėAEĘQėEėMĕRAE",
    "ėQĖEUXĖIMGBAĕSAAĖEEėTĖHEUAEQėIQėOĘQĖOMĖUAENĕTAAĘQėEN NTEUMėMėQĖENėUĘAEQĖOOĘNėQĖUAEėMĘAEĕVEEėUAEĖ",
    "OMĕWEUXĖUEėOĕYAPĖEUAEĚTĘMĘXĖIEEėTĖOQ COVERęSWIMMINGĖUAENėEQėNėQēF EEĕFOMĕKAĖENėTĖOĖPAĖUĖYEEĕLAĖI",
    "ĖOQĕMĖAĖBAAėENĖEEEEĖOĕNDAAĖGGAėKWAENĖIĖJAEMėUAEĖSHAĖTEEĖUėAEĖYIĕPEEėUXĖUAEĕREEėNėUXĖIEEėIĖUĕSAMB",
    "AĖEUXĖHIIėOėUĖIĖUUĕTAAėEĖETĕUĕVUEQĕWAĖUEĕYAĖOQĎIĎUAEďEčRAEĎEEďNďUXĎIEEďIĎUčSAMBAĎEUXĎHEUXďIIďOďU",
    "ĎIĎUUčTAAďEĎENďTĎIčUčWAĎUEčYAĎOQĎUQĆNJAEMLIĆQUESTION MARKĆSEMICOLONĂNANAăJOăKĄNOTE WITH DOLLAR S",
    "IGNĎEURO SIGNĎPOUND SIGNĎYEN SIGNĂR CHARTĄOF SOAPăBER POLEĂSEBALLăKETĆBALL AND HOOPăSA VAH COMBI",
    "NING HIGH TONEĘ-LOW TONEĔLOW TONEė-MID TONEĔMID TONEĊFULL STOPĊLETTER AđBAđCEđDHIIĒOđEĒEĒNNIđFAđ",
    "GAHĒBUđHWAHđIđJOđKAĒPAHđMBEđOĒOđPAđSEđTOđUĒWUđVUđWAēDDAđYEINĒIEđZOĂTăAK CONSONANT SIGN HĕNGĆLETT",
    "ER AčBAčCAčDAčGAčHAčIčJAčKARO BAčLAčMAďNDAILING HAĘNAĘSAĎBAčNAĎDAĎGAĎORTHERN TAĎYAčPAďKPAK WAčRA",
    "čSAĎIMALUNGUN AĘGAĘHAĘLAĘMAĘPAĘRAĘSAĘWAĘYAĎOUTHERN TAčUčWAčYAĆPANGOLATĉONGONANĆSIGN TOMPIćYMBOL ",
    "BINDU JUDULēNA METEKēPANGOLATĔINARBORASĆVOWEL SIGN EĒEđIđKARO IĖOđOđPAKPAK EđUĒ FOR SIMALUNGUN S",
    "AăHĄTUBăTERYāEACH WITH UMBRELLAăMED ASCENDING MUSICAL NOTESćDESCENDING MUSICAL NOTESćEIGHTH NOTE",
    "SćSIXTEENTH NOTESăNSăR FACEĄDED PERSONăTING HEARTăVERĂCAUSEĂDĂER MUGăTLEĂLăLĄ PEPPERąSYMBOLąWITH",
    " CANCELLATION STROKEĄHOP BELLĂNGALI ABBREVIATION SIGNĉNJIĉU LENGTH MARKĈCURRENCY DENOMINATOR SIX",
    "TEENđNUMERATOR FOURěONEĞ LESS THAN THE DENOMINATORěTHREEĜWOĈDIGIT EIGHTĎFIVEďOURĎNINEĎONEĎSEVENď",
    "IXĎTHREEďWOĎZEROĈGANDA MARKĈISSHARĈLETTER AĐAĐIĐUďBAĐHAďCAĐHAďDAĐDAđHAĐHAďEďGAĐHAďHAďIĐIďJAĐHAďK",
    "AĐHAĒNDA TAďLAďMAďNAĐGAĐNAĐYAďOďPAĐHAďRAđ WITH LOWER DIAGONALėMIDDLE DIAGONALĐHAĐRAďSAĐHAĐSAďTAĐ",
    "HAĐTAđHAďUĐUďVEDIC ANUSVARAĐOCALIC LĘLėRĘRďYAĐYAĈRUPEE MARKĎSIGNĈSANDHI MARKĉIGN ANUSVARAĎVAGRAH",
    "AčCANDRABINDUčNUKTAčVIRAMAďSARGAĈVOWEL SIGN AAĔIĔUēEēIĔIēOēUĔUēVOCALIC LĜLěRĜRăT ARROW POINTING ",
    "DOWNWARDS THEN NORTH EASTĄO BOXăZENE RINGČ WITH CIRCLEĂT SYMBOLăWEENĂVERAGE BOXāHAIKSUKI DANDAċI",
    "GIT EIGHTĐFIVEđOURĐNINEĐONEĐSEVENđIXĐTHREEđWOĐZEROċOUBLE DANDAĊGAP FILLER-1ĕ2ĊHUNDREDS UNIT MARK",
    "ĊLETTER AĒAĒIĒUđBAĒHAđCAĒHAđDAĒDAēHAĒHAđEđGAĒHAđHAđIĒIđJAĒHAđKAĒHAđLAđMAđNAĒGAĒNAĒYAđOđPAĒHAđRAđ",
    "SAĒHAĒSAđTAĒHAĒTAēHAđUĒUđVAĒOCALIC LęRĚRđYAĊNUMBER EIGHTĖYđFIFTYēVEĒORTYēURđNINEĕTYđONEđSEVENĖTY",
    "ĒIXĔTYđTENĒHIRTYēREEĒWENTYēOĊSIGN ANUSVARAĐVAGRAHAďCANDRABINDUďVIRAMAđSARGAĊVOWEL SIGN AAĖIĖUĕEĕ",
    "IĖIĕOĕUĖUĕVOCALIC LĝRĞRĊWORD SEPARATORāICYCLEĆISTĂG REVERSE SOLIDUSĄSOLIDUSĂKINIĂLLED CAPĄIARDSĂ",
    "OHAZARD SIGNĂRDăTHDAY CAKEĂSONĂTCOIN SIGNăING LIPāLACK BOWTIEĆCENTRE WHITE STARćHESS BISHOPĒ ROT",
    "ATED NINETY DEGREESěTWO HUNDRED SEVENTY DEGREESČEQUIHOPPERĖ ROTATED NINETY DEGREESČKINGĐ ROTATED",
    " NINETY DEGREESęTWO HUNDRED SEVENTY DEGREESčNIGHTĒ ROTATED FORTY-FIVE DEGREESěNINETY DEGREESěONE",
    " HUNDRED THIRTY-FIVE DEGREESěTHREE HUNDRED FIFTEEN DEGREESĜWO HUNDRED SEVENTY DEGREESħTWENTY-FIV",
    "E DEGREESĒ-BISHOPēQUEENēROOKČPAWNĐ ROTATED NINETY DEGREESęTWO HUNDRED SEVENTY DEGREESČQUEENđ ROT",
    "ATED NINETY DEGREESĚTWO HUNDRED SEVENTY DEGREESČROOKĐ ROTATED NINETY DEGREESęTWO HUNDRED SEVENTY",
    " DEGREESČTURNED BISHOPēKINGĔNIGHTēPAWNēQUEENēROOKćIRCLEČ FOR RECORDčWITH DOWN ARROWĒTWO WHITE DO",
    "TSĒWHITE DOT RIGHTćLUB SUITćROSS ON SHIELDćURVED DOWNWARDS AND LEFTWARDS ARROWěRIGHTWARDS ARROWč",
    "LEFTWARDS AND DOWNWARDS ARROWěUPWARDS ARROWčRIGHTWARDS AND DOWNWARDS ARROWĜUPWARDS ARROWčUPWARDS",
    " AND LEFTWARDS ARROWęRIGHTWARDS ARROWĆDIAMONDč CENTREDĎMINUS WHITE XĎON CROSSĎSUITĎWITH DOWN ARR",
    "OWćOWN POINTING BACKHAND INDEXĊ-POINTING DOUBLE TRIANGLEĔISOSCELES RIGHT TRIANGLEĔSMALL TRIANGLE",
    "ĔTRIANGLEĊWARDS EQUILATERAL ARROWHEADćRAUGHTS KINGďMANĈOPLETĆFLAGĈORETTEćOLDERĈUR POINTED STARĆH",
    "ARD SHELL FLOPPY DISKćEARTċ SUITĈXAGONćORIZONTAL ELLIPSEĈURGLASSĆLARGE CIRCLEČSQUAREćEFT LANE ME",
    "RGEċPOINTING BACKHAND INDEXĔINDEXĊ-POINTING DOUBLE TRIANGLEģ WITH VERTICAL BARĔISOSCELES RIGHT T",
    "RIANGLEĔPOINTERĔSMALL TRIANGLEĔTRIANGLEĊWARDS BULLETĐEQUILATERAL ARROWHEADćOWER LEFT TRIANGLEČRI",
    "GHT TRIANGLEĈZENGEĆMEDIUM DIAMONDĎOWN-POINTING TRIANGLEģ CENTREDčLEFT-POINTING TRIANGLEģ CENTRED",
    "ĎOZENGEčRIGHT-POINTING TRIANGLEĤ CENTREDčSMALL DIAMONDēLOZENGEēSQUAREĎQUAREčUP-POINTING TRIANGLE",
    "ġ CENTREDćOON LILITHĆNIBĆOCTAGONĆPARALLELOGRAMćENNANTĉTAGONćUSHPINĆQUESTION MARK ORNAMENTĆRECTAN",
    "GLEćIGHT POINTING BACKHAND INDEXĕINDEXċ-POINTING DOUBLE TRIANGLEĤ WITH VERTICAL BARĕISOSCELES RI",
    "GHT TRIANGLEĕPENTAGONĖOINTERĕSMALL TRIANGLEĕTRIANGLEĝ WITH DOUBLE VERTICAL BARċWARDS ARROWĖHEADđ",
    "BULLETđEQUILATERAL ARROWHEADćOSETTEĆSAFETY SCISSORSćCISSORSćHOGI PIECEćKULL AND CROSSBONESćLIGHT",
    "LY SMALL CIRCLEĕSQUAREćMALL DIAMONDČLOZENGEČSQUAREčTARĈILING FACEćNOWMANćPADE SUITćQUAREČ BUTTON",
    "čCENTREDčFOR STOPćTARćUN WITH RAYSĆTELEPHONEćINY DIAMONDċLOZENGEċSQUAREćOUCHTONE TELEPHONEćRUCKć",
    "WO-WAY LEFT WAY TRAFFICĆUNIVERSAL RECYCLING SYMBOLćP POINTING BACKHAND INDEXĈ-POINTING DOUBLE TR",
    "IANGLEĒISOSCELES RIGHT TRIANGLEĒSMALL TRIANGLEĒTRIANGLEĈPER LEFT TRIANGLEČRIGHT TRIANGLEĈWARDS E",
    "QUILATERAL ARROWHEADĆVERTICAL ELLIPSEďRECTANGLEĉY SMALL DIAMONDđLOZENGEđSQUAREą-FEATHERED NORTH ",
    "EAST ARROWĐRIGHTWARDS ARROWĐSOUTH EAST ARROWĆLETTER CAPITAL CĕHĕIĕRĕZăNK SYMBOLĂOCK SEXTANT-1ď2Đ",
    "3đ4Ē5Ē6đ5Ē6đ6Đ4đ5Ē6đ6Đ5đ6Đ6ď3Đ4đ5Ē6đ6Đ56Đ6ď4Đ5đ6Đ6ď5Đ6ď6Ď2ď3Đ4đ5Ē6đ6Đ5đ6Đ6ď4Đ5đ6ď5Đ6ď6Ď3ď4Đ5đ6Đ6",
    "ď5Đ6ď6Ď4ď5Đ6ď6Ď5ď6Ď6ăSSOMăWFISHĂUE BOOKąHEARTĄBERRIESāOARĂLD EIGHT SPOKED ASTERISKąFIVE SPOKED A",
    "STERISKąGREEK CROSSąSALTIREĆIX SPOKED ASTERISKąWHITE CIRCLEċSQUAREĂMăBĂNEĂOKĄMARKĈ TABSĄSăMERANG",
    "ĂPOMOFO FINAL LETTER GĖHĖKĖPĖTĉLETTER AđHđIĒNNđMđNĒGĒNđUĒNNĐBđUĐCđHĐDĐEđEđHđIđNĒGĒNđRĐFĐGđHđNđUđ",
    "WĐHĐIđHđMđNNēNđRđUĐJđIĐKđWĐLđHĐMĐNđGĒGđNĐOđ WITH DOT ABOVEđEđMđNGĒNđOđUĐPĐQĐRĐSđHĐTĐUđNNĐVĐXĐZđH",
    "đIđYĂTTLE WITH POPPING CORKĄOM ARC ANTICLOCKWISE ARROWćCURLY BRACKETćHALF BLACK CIRCLEČINTEGRALČ",
    "LEFT PARENTHESISČRIGHT PARENTHESISćLEFT CORNERčROPČHALF BRACKETćPARENTHESISćRIGHT CORNERĎROPčHAL",
    "F BRACKETćSQUARE BRACKETĕ OVER TOP SQUARE BRACKETćTORTOISE SHELL BRACKETĂUQUETć OF FLOWERSĂW AND",
    " ARROWăL OF HYGIEIAąWITH SPOONĄINGăTIEĆ WITH LEFT HALF BLACKČRIGHT HALF BLACKĂX DRAWINGS DOUBLE ",
    "DOWN AND HORIZONTALĝLEFTĝRIGHTĔHORIZONTALĔUP AND HORIZONTALěLEFTěRIGHTĔVERTICALĜ AND HORIZONTALġ",
    "LEFTġRIGHTďWN DOUBLE AND HORIZONTAL SINGLEĝLEFT SINGLEĝRIGHT SINGLEĒHEAVY AND HORIZONTAL LIGHTĜL",
    "EFT LIGHTġUP LIGHTĜRIGHT LIGHTĢUP LIGHTĜUP HORIZONTAL LIGHTĒLIGHT AND HORIZONTAL HEAVYĜLEFT HEAV",
    "YġUP HEAVYĜRIGHT HEAVYĢUP HEAVYĜUP HORIZONTAL HEAVYĒSINGLE AND HORIZONTAL DOUBLEĝLEFT DOUBLEĝRIG",
    "HT DOUBLEčHEAVY DOUBLE DASH HORIZONTALğVERTICALĕWNė AND HORIZONTALĜLEFTĜRIGHTēHORIZONTALēLEFTė A",
    "ND LIGHT RIGHTēQUADRUPLE DASH HORIZONTALĢVERTICALēRIGHTēTRIPLE DASH HORIZONTALğVERTICALēUPĕ AND ",
    "HORIZONTALĚLEFTěIGHT DOWNĚRIGHTēVERTICALě AND HORIZONTALĠLEFTĠRIGHTčLEFT DOWN HEAVY AND RIGHT UP",
    " LIGHTĒHEAVY AND RIGHT DOWN LIGHTĢUP LIGHTĢVERTICAL LIGHTĒLIGHT AND RIGHT DOWN HEAVYĢUP HEAVYĢVE",
    "RTICAL HEAVYĒUP HEAVY AND RIGHT DOWN LIGHTĎIGHT ARC DOWN AND LEFTĠRIGHTėUP AND LEFTĞRIGHTēDIAGON",
    "AL CROSSĜDIAMONDĜMIDDLE LEFT TO LOWER CENTREķ TO MIDDLE RIGHTīUPPER CENTRE TO MIDDLE RIGHTŇ TO L",
    "OWER CENTREģRIGHT TO LOWER CENTREĬUPPER CENTRE TO MIDDLE LEFT TO LOWER CENTREĜUPPER CENTRE TO MI",
    "DDLE LEFTķ AND MIDDLE RIGHT TO LOWER CENTREĸTO LOWER CENTREŇ TO MIDDLE RIGHTĳRIGHTĸ AND MIDDLE L",
    "EFT TO LOWER CENTREĹTO LOWER CENTREň TO MIDDLE LEFTĢLEFT TO LOWER RIGHTĢRIGHT TO LOWER LEFTĔOUBL",
    "E DASH HORIZONTALğVERTICALĕWNė AND HORIZONTALĜLEFTĜRIGHTēHORIZONTALĝ WITH VERTICAL STROKEēLEFTė ",
    "AND HEAVY RIGHTēQUADRUPLE DASH HORIZONTALĢVERTICALēRIGHTēTRIPLE DASH HORIZONTALğVERTICALēUPĕ AND",
    " HEAVY DOWNěORIZONTALĚLEFTĚRIGHTēVERTICALě AND HORIZONTALĠLEFTĠRIGHTčRIGHT DOWN HEAVY AND LEFT U",
    "P LIGHTēHEAVY AND LEFT DOWN LIGHTĢUP LIGHTĢVERTICAL LIGHTēLIGHT AND LEFT DOWN HEAVYĢUP HEAVYĢVER",
    "TICAL HEAVYēUP HEAVY AND LEFT DOWN LIGHTčUP DOUBLE AND HORIZONTAL SINGLEěLEFT SINGLEěRIGHT SINGL",
    "EĐHEAVY AND DOWN HORIZONTAL LIGHTĚHORIZONTAL LIGHTĚLEFT DOWN LIGHTğLIGHTĚRIGHT DOWN LIGHTĠLIGHTĐ",
    "LIGHT AND DOWN HORIZONTAL HEAVYĚHORIZONTAL HEAVYĚLEFT DOWN HEAVYğHEAVYĚRIGHT DOWN HEAVYĠHEAVYĐSI",
    "NGLE AND HORIZONTAL DOUBLEěLEFT DOUBLEěRIGHT DOUBLEčVERTICAL DOUBLE AND HORIZONTAL SINGLEġLEFT S",
    "INGLEġRIGHT SINGLEĖHEAVY AND HORIZONTAL LIGHTĠLEFT LIGHTĠRIGHT LIGHTĖLIGHT AND HORIZONTAL HEAVYĠ",
    "LEFT HEAVYĠRIGHT HEAVYĖSINGLE AND HORIZONTAL DOUBLEġLEFT DOUBLEġRIGHT DOUBLEăING GLOVEĂYăS SYMBO",
    "LāPHāRAHMI DANDAĈIGIT EIGHTčFIVEĎOURčNINEčONEčSEVENĎIXčTHREEĎWOčZEROĈOUBLE DANDAćLETTER AďAďIďUĎ",
    "BAďHAĎCAďHAĎDAďDAĐHAďHAĎEĎGAďHAĎHAĎIďIĎJAďHAĎKAďHAĎLAďLAĎMAĎNAďGAďNAďYAĎOďLD TAMIL LLAĚLAĘNNNAĘR",
    "RAĘSHORT EĞOĎPAďHAĎRAĎSAďHAďSAĎTAďHAďTAĐHAĎUďUĎVAďOCALIC LėLĖRėRĎYAćNUMBER EIGHTēYĎFIFTYĐVEďORTY",
    "ĐURĎJOINERĎNINEĒTYĎONEđ HUNDREDĒTHOUSANDĎSEVENēTYďIXđTYĎTENďHIRTYĐREEďWENTYĐOćPUNCTUATION CRESCE",
    "NT BARēDOTĕUBLE DOTēLINEĔOTUSćSIGN ANUSVARAČCANDRABINDUČJIHVAMULIYAČOLD TAMIL VIRAMAČUPADHMANIYA",
    "ČVISARGAćVIRAMAĈOWEL SIGN AAēIēUĒBHATTIPROLU AAĒEĒIēIĒOēLD TAMIL SHORT EĢOĒUēUĒVOCALIC LěLĚRěRăI",
    "LLE PATTERN BLANKĐDOTS-1Ė2ė3Ę4ę5Ě6ě7Ĝ8ě8Ě7ě8Ě8ę6Ě7ě8Ě8ę7Ě8ę8Ę5ę6Ě7ě8Ě8ę7Ě8ę8Ę6ę7Ě8ę8Ę7ę8Ę8ė4Ę5ę6",
    "Ě7ě8Ě8ę7Ě8ę8Ę6ę7Ě8ę8Ę7ę8Ę8ė5Ę6ę7Ě8ę8Ę7ę8Ę8ė6Ę7ę8Ę8ė7Ę8ė8Ė3ė4Ę5ę6Ě7ě8Ě8ę7Ě8ę8Ę6ę7Ě8ę8Ę7ę8Ę8ė5Ę6ę7",
    "Ě8ę8Ę7ę8Ę8ė6Ę7ę8Ę8ė7Ę8ė8Ė4ė5Ę6ę7Ě8ę8Ę7ę8Ę8ė6Ę7ę8Ę8ė7Ę8ė8Ė5ė6Ę7ę8Ę8ė7Ę8ė8Ė6ė7Ę8ė8Ė7ė8Ė8ĕ2Ė3ė4Ę5ę6",
    "Ě7ě8Ě8ę7Ě8ę8Ę6ę7Ě8ę8Ę7ę8Ę8ė5Ę6ę7Ě8ę8Ę7ę8Ę8ė6Ę7ę8Ę8ė7Ę8ė8Ė4ė5Ę6ę7Ě8ę8Ę7ę8Ę8ė6Ę7ę8Ę8ė7Ę8ė8Ė5ė6Ę7ę8",
    "Ę8ė7Ę8ė8Ė6ė7Ę8ė8Ė7ė8Ė8ĕ3Ė4ė5Ę6ę7Ě8ę8Ę7ę8Ę8ė6Ę7ę8Ę8ė7Ę8ė8Ė5ė6Ę7ę8Ę8ė7Ę8ė8Ė6ė7Ę8ė8Ė7ė8Ė8ĕ4Ė5ė6Ę7ę8",
    "Ę8ė7Ę8ė8Ė6ė7Ę8ė8Ė7ė8Ė8ĕ5Ė6ė7Ę8ė8Ė7ė8Ė8ĕ6Ė7ė8Ė8ĕ7Ė8ĕ8ĄNĂEADĄK PERMITTED HEREĄST-FEEDINGăVEĂICKăDE",
    " WITH VEILĄGE AT NIGHTăEFCASEąSĂOCCOLIăKEN BARćCIRCLE WITH NORTHWEST ARROWćHEARTăOMăWN HEARTāSāU",
    "BBLE TEAĆSĂCKETĂGăINESE END OF SECTIONĉLETTER AĐBAĐCAĐDAĐGAĐHAĐJAĐKAĐLAĐMAđPAĐNAđGAĒKAđRAđYAĒCAĐ",
    "PAĐRAĐSAĐTAĐVAĐYAĉPALLAWAĉVOWEL SIGN AEĔEĔIĔOĔUĂHID LETTER AčBAčDAčGAčHAčIčKAčLAčMAčNAĎGAčPAčRAč",
    "SAčTAčUčWAčYAĆVOWEL SIGN IđUĂILDING CONSTRUCTIONĂLLETĆ OPERATORĄHORNĈ WITH SOUND WAVESĄSEYEĂRRIT",
    "OĂSă STOPăT IN SILHOUETTEĄS IN SILHOUETTEĂTTERĆFLYāYTE ORDER MARKĂZANTINE MUSICAL SYMBOL AGOGI A",
    "RGIĢOTERIğGORGIģOTERIğMESIġTRIAğPOLI ARGIĤGORGIĚNATRICHISMAěTIKENOKYLISMAġMAĚPESO EKFONITIKONĠXO",
    " NEOěLIěODERMA ARCHAIONĢNEOĜSTROFOI SYNDESMOS NEOĤTELOUS ICHIMATOSĢSģ DIPLIĤNEOĜTHEMAĚRGONĝSYNTH",
    "ETONěKTIKO DIġGAġKEġNIġPAġVOUġZOęCHAMILIğONěOREVMA ARCHAIONĢNEOěROA KLITONğSPATHIğZYGOSęDASEIAĚI",
    "ARGONĜSTOLI APLI MEGALIĨIKRIĢDIPLIĢTHESEOSěESIS APLI DYO DODEKATAĠDIGRAMMOS EX DODEKATAĠMONOGRAM",
    "MOS TESSERA DODEKATAĠTETARTIMORIONġRIGRAMMOS OKTO DODEKATAģTIMORIONěFTOGGOS OUěGORGONġ PARESTIGM",
    "ENON ARISTERA ANOĹKATOİDEXIAĜRAMMA GGěPLIĞ ARCHAIONĚYOęEKSTREPTONĚLAFRONĚNARXIS KAI FTHORA VOUěD",
    "OFONONĚPEGERMAĚTERON ARGOSYNTHETONĠPARAKALESMAĚXO EKFONITIKONęFANEROSIS DIFONIASģMONOFONIASģTETR",
    "AFONIASĚHTORA SKLIRON CHROMA VASISĚTHORA ARCHAIONĨ DEYTEROU ICHOUĠDIATONIKI DIĪKEĪNANAīI ANOĭKAT",
    "OĪPAĪZOĠENARMONIOS ANTIFONIAĠI YFESIS TETARTIMORIONĠMALAKON CHROMA DIFONIASįMONOFONIASĠNAOS ICHO",
    "SġENANOĠSKLIRON CHROMA SYNAFIįVASISĨDIATONON DIęGENIKI DIESISĠYFESISĚORGON ARCHAIONĠNEO ANOĤKATO",
    "ĠPARESTIGMENON ARISTERAĮDEXIAĞSYNTHETONĜTHMIKON N APLOUNĦDIPLOUNĚRONTHISMATAęICHADINĚMIDIARGONĜF"]

/-- Part 2 of the front-coded names. -/
def namesPart2 : String := String.join [
    "ONONĝTHORAġONĚSAKIA TELOUS ICHIMATOSěON ARCHAIONĞNEOęKATAVA TROMIKONğSMAĜHISTIĚENTIMA ARCHAIONġN",
    "EO ANOĥKATOĥMESOĠTAĢ ARCHAIONģNEO ANOħKATOħMESOĚLASMAğ ANOĠKATOĚONTEVMAġ ALLOěRONISěUFISMAĚRATIM",
    "A ALLOĢRCHAIONġNEOĠTAğOKOUFISMAĠYPORROONěEMASTIĚYLISMAęLEIMMA DYO CHRONONĠENOS CHRONOUĠIMISEOS C",
    "HRONOUĠTESSARON CHRONONġRION CHRONONěMOIĚYGISMAęMARTYRIA ALLI DEYTEROS ICHOSħPROTOS ICHOSĢDEYTER",
    "OS ICHOSĢLEGETOS ICHOSĢPLAGIOS ICHOSĪTETARTOS ICHOSģROTOS ICHOSħVARYS ICHOSĢTETARTOS ICHOSīLEGET",
    "OS ICHOSģRIFONIASĥTOS ICHOSĢVARYS ICHOSĚIKRON ISONęNANAęOLIGON ARCHAIONĠNEOĚMALONĚXEIA DIPLIğEKF",
    "ONITIKONğNEOĞI ARCHAIONĚYRANISMA ARCHAIONģNEOęPARAKALESMA ARCHAIONĥNEOĞLITIKIĤ ARCHAIONĥNEOĜICHO",
    "NĚELASTONġ NEOěRISPOMENIěTASMAĞTIğOKOUFISMAĚIASMA ARCHAIONĠNEOĚSIFISTOLYGISMAġNĢ NEOġPARAKALESMA",
    "ġSYNAGMAĜLIĝONęRAPISMAĚEVMAęSAXIMATAĚEISMAğ NEOĚIMANSIS ARSEOSĨ DISIMOUĩTETRASIMOUĪRISIMOUĢTHESE",
    "OSĩ DISIMOUĪTETRASIMOUīRISIMOUĚTAVROSĠ APODEXIAěIGMAěRAGGISMATAĚYNAGMA ARCHAIONġMETA STAVROUġNEO",
    "ĜEVMAěRMAĞTIKIęTELEIAěSSERAěTRAPLIĚHEMAĞ APLOUNĞTISMOS ESOĦXOĜS KAI APOTHESěITAĚINAGMAĚRIAĜGORGO",
    "NĜPLIěOMIKOLYGISMAĠN ALLOģRCHAIONĢNEOĠPARAKALESMAġSIFISTONĠSYNAGMAęVAREIA DIPLIĠEKFONITIKONĠNEOğ",
    "I ARCHAIONěTHYęXIRON KLASMAęYFEN ANOĞKATOĜSIS APLI DYO DODEKATAĠDIGRAMMOS EX DODEKATAĠMONOGRAMMO",
    "S TESSERA DODEKATAĠTRIGRAMMOS OKTO DODEKATAģTIMORIONĚPOKRISISĢ DIPLIĜRROIěSILIĀCACTUSĂDA UNAăUCE",
    "USĂLENDARăL ME HANDĂMERAĆ WITH FLASHăPINGĂNăADIAN SYLLABICS AĔAĕIĕYĔIĕVILIK BĔNĔTHAPASCAN MĞSĔYē",
    "BEAVER DENE LğRĔIBLE-CREE YĔLACKFOOT AĝEĝIĝKAĞEĞIĞOĝNAĞEĞIĞOĝOĝSĝWĞAĞEĞIĞOēCĔAĕAĖIĕRRIER CHAĝEĞE",
    "ĝIĝOĝUěDEEĝNE GEEĞTAL SĜIĜLAĝEĞEĝIĝOĝUĜZAĝEĞEĝIĝOĝUěEEěGAĝAĜEĝEĜHAĝEĞEĝIĝOĝUĜIĜOĜUĜWAĝUěHĜEEĜIĜW",
    "AĝEĞEĝIĝOĝUěIĜNITIAL ZěJAĜEĝEĜIĜJAĝEĞEĝIĝOĝUĜOĜUĜWAěKHAĝEĞEĝIĝOĝUĜKĝAĝEĞEĝIĝOĝUěLAĜEĝEĜHAĝEĞEĝIĝ",
    "OĝUĜIĜOĜUěMAĜEĝEĜIĜOĜUěNAĜEĝEĜGĜIĜOĜUěPĜAĜEĝEĜIĜOĜUěRAĜEĝEĜIĜOĜUěSAĜEĝEĜHĝAĝEĞEĝIĝOĝUĜIĜOĜUěTHAĝ",
    "EĞEĝIĝOĝUĜLAĝEĞEĝHAĞEğEĞIĞOĞUĝIĝOĝUĜSAĝEĞEĝIĝOĝUĜTAĝEĞEĝIĝOĝSAĞEğEĞIĞOĞUĝUěWAĜEĝEĜIĜOĜUěYAĜEĝEĜI",
    "ĜOĜUěZĜAĜEĝEĜIĜOĜUĔEĔHI SIGNĔIĕIĔOĕOĔWAĖAĕEĕIĖIĕOĖOēEĔASTERN WĔNēFĔAĕAĖIĔEĔIĕIĕNAL ACUTEęBOTTOM ",
    "HALF RINGęDOUBLE ACUTEĠSHORT VERTICAL STROKESěWN TACKęGRAVEęMIDDLE DOTęPLUSęRAISED DOTĚIGHT HALF",
    " RINGěNGęSHORT HORIZONTAL STROKEĚMALL RINGęTOP HALF RINGĔOĕOĔULL STOPĔWAAēGLOTTAL STOPēHKĔYPHENē",
    "IĔIĔNēKĔAĕAĖIĕYĔEĔIĕIĔOĕOĔWĕAĖAĖYĕEĕIĖIĕOĖOēLĔAĕAĖIĕYĔEĔHĕAĖAĕIĖIĕOĖOĔIĕIĔOĕOĔWAĖAĕEĕIĖIĕOĖOēMĔA",
    "ĕAĖIĕYĔEĕDIAL LĚRĔHĔIĕIĔOĕOĖSE-CREE SKĔWAĖAĕEĕIĖIĕOĖOēNĔ-CREE THEĜIĝIĔAĕAĖIĕSKAPI CWAAěKWAAěMWAA",
    "ěNWAAěS-WĜCWAĜKWĞAĜPWAĜTWAĜWAAěTWAAěWAAĜOOěYWAAĕTTILIK HAĞAĝIĞIĝOĞOĜSHRAĠAğIĠIğOĠOĕYĔEĔGĕAĖAėIĖI",
    "ĕIĖIĕOĖOĔHĔIĕIĔNGĖAėAĖIėIĖOėOĔOĕOĕYĔUNAVIK HĜAĝAĜEĜIĝIĜOĝOĘUT HĔWAĖAĕEĕIĖIĕOĖOēOĔJIBWAY CěKěMěNĜ",
    "WIĞIĝOĞOěPěSĜHěTĔNĔOĔYēPĔAĕAĖIĕYĔEĔIĕIĔOĕOĕYĔWAĖAĕEĕIĖIĕOĖOĖYēQĔAĕAĖIĕIĔIĕIĔOĕOēRĔ-CREE REěWEĔAĕ",
    "AĖIĕYĔEĔIĕIĔOĕOĔWAĖAĕEEĕIĖIĕOĖOēSĔAĕAĖIĕYĖISI HAěEěIěOĜOĚJIěUĜUĚMĚSHAĜEĜIĜOĝOĜWEĚTHĚYIĔEĔHĕAĖAĖY",
    "ĕEĕIĖIĕOĖOĖYĕWAėAĖEĖIėIĖOėOėYĔIĕIĔOĕOĕUTH-SLAVEY KAHġEHġIHġOHĕYĔPAĕEĕIĕOĔWĕAĖAĕEĕIĖIĕOĖOēTĔAĕAĖI",
    "ĕYĔEĔHĕ-CREE THĝAĞAĝEĝIĞIĝOĞOĕAĖAĕEĕIĖIĕOĖOĕWAėAĖEĔIĕIĔLHAĖEĖIĖOėOĖWEĔOĕOĔTAĕEĕHĖAėAĖEĖIĖOėOĖWEĕ",
    "IĕOĔWAĖAĕEĕIĖIĕOĖOĔYAĕEĕIĕOēWAĕAĕYĔEĕST-CREE CWAĠAğEğIĠIğOĠOĝFWAAĝKWAĠAğEğIĠIğOĠOĝLĞAğAĞEĞOğOĞWA",
    "ĠAğEğIĠIğOĠOĝMĞWAĠAğEğIĠIğOĠOĝNWAĠAğEĝPĞWAĠAğEğIĠIğOĠOĝRĞAĞEĞIĞOĞWAAĝSHWAġAĠEĠIġIĠOġOĞWAĠAğEğIĠI",
    "ğOĠOĝTHWAAĞWAĠAğEğIĠIğOĠOĝWAğAĞEĞIğIĞOğOĝYĞWAĠAğEğIĠIğOĠOėERN WĔIĕIĔOĕOĖDS-CREE FINAL THĞTHĠAĠEĠ",
    "IĠOĠWAĢAġEEġIĢIġOĢOēYĔ-CREE COOĚKOOĚLOOĚMOOĚNOOĚOOĚPOOěWAAĚSOOĚTOOĚWĚYOOĔAĕAĖIĕYĔEĔIĕIĔOĕOĕYĔWAĖ",
    "AĕEĕIĖIĕOĖOăCELĆ CHARACTERćTAGĆLATION XąRăDLEĄYăNED FOODăOEĂPITULUMăRICORNĂR SLIDINGăD FILE BOXą",
    "INDEXĊ DIVIDERSăE OFĄTą INSERTION POINTăIAN LETTER Aď2ĎBĎC-18Đ39ĎDď2ĎEď2ĎGď2ĎIďIĎKď2ĎLďDĐ2ĎMďBĐ2",
    "Đ3Đ4ĎNďDďGďNĎOĎPď2ĎQĎRďRĎSďHĐ2ďSďTĐ2ĎTďTĐ2ĎUďUĐUđ2đ3đUĎXăONĄUSEL HORSEăP STREAMERĄENTRY SAWăRIAG",
    "E RETURNĄOTĂSTLEĂTă FACEĈ WITH TEARS OF JOYĎWRY SMILEĂUCASIAN ALBANIAN CITATION MARKēLETTER ALTě",
    "ORĚBETĚCARĜYNěHAĝTĜIĜOYěYAWĝYĚDATěYANěZAYĜYAYĚEBěYNĚFAMĚGHEYSěIMĚHEYTĚINYAěRBěWNĚJAYNěHOXĚKARěIW",
    "ĚLANěYITĚMAQĚNOWCĚONĚPENěIWRĚQARĜYĚRATĚSEYKěHAĝKĜOYĚTASěIWRěYAYĚVEYZĚXEYNĚYAYDěOWDĚZARLěHAĜILăTI",
    "ON SIGNāCHāEDI SIGNĄLLAĂLTIC CROSSĂNT SIGNĄRE LINE SYMBOLĆLINE LOW LINEċOVERLINEĂRESāGJāHAINSĄRă",
    "KMA AU MARKćDANDAĈIGIT EIGHTčFIVEĎOURčNINEčONEčSEVENĎIXčTHREEĎWOčZEROĈOUBLE DANDAćLETTER AAĎBAAď",
    "HAAĎCAAďHAAĎDAAďDAAĐHAAďHAAĎEĎGAAďHAAĎHAAĎIĎJAAďHAAĎKAAďHAAĎLAAďHAAĎMAAĎNAAďGAAďNAAďYAAĎPAAďHAAĎ",
    "RAAĎSAAĎTAAďHAAďTAAĐHAAĎUĎVAAĎWAAĎYAAďYAAćMAAYYAAćO MARKćQUESTION MARKćSECTION MARKĈIGN ANUSVARA",
    "ČCANDRABINDUČVISARGAćVIRAMAĈOWEL SIGN AēAēIēUĒEēIĒIēIĒOēIĒUēUăM CONSONANT SIGN FINAL HĚMĚNGĔLAĔR",
    "AĔWAĔYAąDIGIT EIGHTċFIVEČOURċNINEċONEċSEVENČIXċTHREEČWOċZEROąLETTER AčIČBAčBAčHAČCHAĎHAČDAčDAčHA",
    "ČEČFINAL CHĒGĒKĒLĒNēGĒPĒRĒSSĒTĒYČGAčHAČHAČIČJAčHAČKAčHAČLAČMAčUEČNAčGAĎUEčHAĎJAĎUEčUEČOČPAčHAčPA",
    "ČRAČSAčSAČTAčHAČUČVAČYAąPUNCTUATION DANDAĒOUBLE DANDAđSPIRALđTRIPLE DANDAąVOWEL SIGN AAđIđUĐEIĐI",
    "đIĐOđEĐUđEăRACTER TABULATIONĔ SETĕWITH JUSTIFICATIONċIEĄT WITH DOWNWARDS TRENDċUPWARDS TRENDĘ AN",
    "D YEN SIGNĂECK MARKąER BOARDč FILLăERING MEGAPHONEĄSE WEDGEăQUERED FLAGăROKEE LETTER AĐDAđEđIđLA",
    "đOđUđVĐEĐGAđEđIđOđUđVĐHAđEđIđNAđOđUđVĐIĐKAĐLAđEđIđOđUđVĐMAđEđIđOđUđVĐNAĒHđEđIđOđUđVĐOĐQUAĒEĒIĒOĒ",
    "UĒVĐSđAđEđIđOđUđVĐTAđEđIđLAĒEĒIĒOĒUĒVđSAĒEĒIĒOĒUĒVĐUĐVĐWAđEđIđOđUđVĐYAđEđIđOđUđVĉSMALL LETTER AĖ",
    "DAėEėIėLAėOėUėVĖEĖGAėEėIėOėUėVĖHAėEėIėNAėOėUėVĖIĖKAĖLAėEėIėOėUėVĖMAėEėIėOėUėVĖNAĘHėEėIėOėUėVĖOĖQ",
    "UAĘEĘIĘOĘUĘVĖSėAėEėIėOėUėVĖTAėEėIėLAĘEĘIĘOĘUĘVėSAĘEĘIĘOĘUĘVĖUĖVĖWAėEėIėOėUėVĖYAėEėIėOėUėVĄRIESąY",
    " BLOSSOMăSTNUTĂI RHOăCKENăLDąREN CROSSINGăPMUNKăRONĂOCOLATE BARăPSTICKSăRASMIAN LETTER ALEPHēYIN",
    "ĒBETHĒCURLED WAWĒDALETHĒGIMELĒHEĔTHĒKAPHĒLAMEDHĒMEMĒNUNĒPEĒRESHĒSAMEKHēHINēMALL ALEPHĒTAWĒWAWĒYO",
    "DHĒZAYINċNUMBER FOURĒONEĕ HUNDREDĒTENēHREEēWENTYĔOĂRISTMAS TREEĂURCHāINEMAĂRCLE DIVIDED BY HORIZ",
    "ONTAL BAR AND TOP HALF DIVIDED BY VERTICAL BARćWITH ALL BUT UPPER LEFT QUADRANT BLACKČHORIZONTAL",
    " BARČLEFT HALF BLACKčOWER HALF BLACKČRIGHT HALF BLACKČSMALL CIRCLE TO THE RIGHTčUPERIMPOSED XČTW",
    "O HORIZONTAL STROKES TO THE RIGHTČUPPER HALF BLACKĒRIGHT QUADRANT BLACKČVERTICAL FILLĆD ANTICLOC",
    "KWISE ARROWĕ-ROTATED DIVISION SIGNĉSTERISK OPERATORĈBOLD XĉULLETĈC WITH OVERLAID BACKSLASHĉCĉDĉR",
    "OSS FORMEEĔ WITH FOUR DOTSĚTWO DOTSĎPOMMEEčING LANESĈDASHĉIGIT EIGHTĎFIVEďOURĎNINEĎONEĎSEVENďIXĎ",
    "THREEďWOĎZEROĊVISION SIGNĒLASHĉOLLAR SIGN WITH OVERLAID BACKSLASHĊT OPERATORĈEQUALSĈGREATER-THAN",
    "ĈHANGUL CHIEUCHĖ AĐIEUCĔ AďHIEUHĔ AďIEUNGĔ AĕUďKHIEUKHĖ AĐIYEOKĕ AďMIEUMĔ AďNIEUNĔ AďPHIEUPHĖ AĐ",
    "IEUPĔ AďRIEULĔ AďSIOSē AďTHIEUTHĖ AĐIKEUTĕ AĉEAVY WHITE RIGHTWARDS ARROWĉORIZONTAL BAR WITH NOTC",
    "HĉUMAN FIGUREĈIDEOGRAPH ACCEPTēDVANTAGEēLLIANCEēTTENTIONĒCENTREēONGRATULATIONĔPYĔRRECTĒEARTHēIGH",
    "TēNTERPRISEēXCELLENTĒFEMALEēINANCIALĔREĔVEēOURĒHAVEēIGHĒITEMĒKINDERGARTENēOTOĒLABORēEFTēOWĒMALEē",
    "EDICINEĔTALēOONĒNAMEēIGHTĔNEĒONEĒPRINTĒQUESTIONĒRELIGIONĔSOURCEĕTēIGHTĒSCHOOLēECRETĔVENēIXēOCIET",
    "YēPECIALēTOCKĔUDYēUITABLEĔNĔPERVISEĒTENēHREEēWOĒWATERēOODĉNFORMATION SOURCEĉTALIC LATIN CAPITAL ",
    "LETTER CĤRĈKATAKANA AđEđHAĒEĒIĒOĒUđIđKAĒEĒIĒOĒUđMAĒEĒIĒOĒUđNAĒEĒIĒOĒUđOđRAĒEĒIĒOĒUđSAĒEĒIĒOĒUđTA",
    "ĒEĒIĒOĒUđUđWAĒEĒIĒOđYAĒOĒUĉOREAN CHARACTER CHAMKOęJUEUIĈLATIN CAPITAL LETTER AĝBĝCĝDĝEĝFĝGĝHĝIĝJ",
    "ĝKĝLĝMĝNĝOĝPĝQĝRĝSĝTĝUĝVĝWĝXĝYĝZĎSMALL LETTER AěBěCěDěEěFěGěHěIěJěKěLěMěNěOěPěQěRěSěTěUěVěWěXěYě",
    "ZĉESS-THANĈMINUSĉULTIPLICATION SIGN WITH CIRCUMFLEX ACCENTĈNUMBER EIGHTEENĔY ON BLACK SQUAREĐLEV",
    "ENďFIFTEENēYĔ ON BLACK SQUAREĐORTYĔ EIGHTĕFIVEĖOURĕNINEĕON BLACK SQUAREėEĕSEVENĖIXĕTHREEĖWOđURTE",
    "ENďNINETEENďSEVENTEENĕY ON BLACK SQUAREĐIXTEENēY ON BLACK SQUAREďTENĒ ON BLACK SQUAREĐHIRTEENĔYĕ",
    " EIGHTĖFIVEėOURĖNINEĖON BLACK SQUAREĘEĖSEVENėIXĖTHREEėWOĐWELVEĒNTYĕ EIGHTĖFIVEėOURĖNINEĖON BLACK",
    " SQUAREĘEĖSEVENėIXĖTHREEėWOĈOPEN CENTRE EIGHT POINTED STARĈPARALLELĉERPENDICULARĉLUSĉOSTAL MARKĈ",
    "REVERSE SOLIDUSĉING OPERATORĈSQUAREĈTIMESĉRIANGLEĐ DOWNĈVERTICAL BARĈWHITE BULLETĎSTARĉZĈXĈZERO ",
    "WITH SLASHĄULATION FUNCTIONąMFLEX ACCENTąS TENTĂTYSCAPEĉ AT DUSKāJK COMPATIBILITY IDEOGRAPH-2F80",
    "0Ġ1Ġ2Ġ3Ġ4Ġ5Ġ6Ġ7Ġ8Ġ9ĠAĠBĠCĠDĠEĠFğ10Ġ1Ġ2Ġ3Ġ4Ġ5Ġ6Ġ7Ġ8Ġ9ĠAĠBĠCĠDĠEĠFğ20Ġ1Ġ2Ġ3Ġ4Ġ5Ġ6Ġ7Ġ8Ġ9ĠAĠBĠCĠDĠEĠ",
    "Fğ30Ġ1Ġ2Ġ3Ġ4Ġ5Ġ6Ġ7Ġ8Ġ9ĠAĠBĠCĠDĠEĠFğ40Ġ1Ġ2Ġ3Ġ4Ġ5Ġ6Ġ7Ġ8Ġ9ĠAĠBĠCĠDĠEĠFğ50Ġ1Ġ2Ġ3Ġ4Ġ5Ġ6Ġ7Ġ8Ġ9ĠAĠBĠCĠD",
    "ĠEĠFğ60Ġ1Ġ2Ġ3Ġ4Ġ5Ġ6Ġ7Ġ8Ġ9ĠAĠBĠCĠDĠEĠFğ70Ġ1Ġ2Ġ3Ġ4Ġ5Ġ6Ġ7Ġ8Ġ9ĠAĠBĠCĠDĠEĠFğ80Ġ1Ġ2Ġ3Ġ4Ġ5Ġ6Ġ7Ġ8Ġ9ĠAĠBĠ",
    "CĠDĠEĠFğ90Ġ1Ġ2Ġ3Ġ4Ġ5Ġ6Ġ7Ġ8Ġ9ĠAĠBĠCĠDĠEĠFğA0Ġ1Ġ2Ġ3Ġ4Ġ5Ġ6Ġ7Ġ8Ġ9ĠAĠBĠCĠDĠEĠFğB0Ġ1Ġ2Ġ3Ġ4Ġ5Ġ6Ġ7Ġ8Ġ9ĠA",
    "ĠBĠCĠDĠEĠFğC0Ġ1Ġ2Ġ3Ġ4Ġ5Ġ6Ġ7Ġ8Ġ9ĠAĠBĠCĠDĠEĠFğD0Ġ1Ġ2Ġ3Ġ4Ġ5Ġ6Ġ7Ġ8Ġ9ĠAĠBĠCĠDĠEĠFğE0Ġ1Ġ2Ġ3Ġ4Ġ5Ġ6Ġ7Ġ8Ġ",
    "9ĠAĠBĠCĠDĠEĠFğF0Ġ1Ġ2Ġ3Ġ4Ġ5Ġ6Ġ7Ġ8Ġ9ĠAĠBĠCĠDĠEĠFĞ900Ġ1Ġ2Ġ3Ġ4Ġ5Ġ6Ġ7Ġ8Ġ9ĠAĠBĠCĠDĠEĠFğ10Ġ1Ġ2Ġ3Ġ4Ġ5Ġ6Ġ",
    "7Ġ8Ġ9ĠAĠBĠCĠDĠEĠFğ20Ġ1Ġ2Ġ3Ġ4Ġ5Ġ6Ġ7Ġ8Ġ9ĠAĠBĠCĠDĠEĠFğ30Ġ1Ġ2Ġ3Ġ4Ġ5Ġ6Ġ7Ġ8Ġ9ĠAĠBĠCĠDĠEĠFğ40Ġ1Ġ2Ġ3Ġ4Ġ5",
    "Ġ6Ġ7Ġ8Ġ9ĠAĠBĠCĠDĠEĠFğ50Ġ1Ġ2Ġ3Ġ4Ġ5Ġ6Ġ7Ġ8Ġ9ĠAĠBĠCĠDĠEĠFğ60Ġ1Ġ2Ġ3Ġ4Ġ5Ġ6Ġ7Ġ8Ġ9ĠAĠBĠCĠDĠEĠFğ70Ġ1Ġ2Ġ3Ġ",
    "4Ġ5Ġ6Ġ7Ġ8Ġ9ĠAĠBĠCĠDĠEĠFğ80Ġ1Ġ2Ġ3Ġ4Ġ5Ġ6Ġ7Ġ8Ġ9ĠAĠBĠCĠDĠEĠFğ90Ġ1Ġ2Ġ3Ġ4Ġ5Ġ6Ġ7Ġ8Ġ9ĠAĠBĠCĠDĠEĠFğA0Ġ1Ġ2",
    "Ġ3Ġ4Ġ5Ġ6Ġ7Ġ8Ġ9ĠAĠBĠCĠDĠEĠFğB0Ġ1Ġ2Ġ3Ġ4Ġ5Ġ6Ġ7Ġ8Ġ9ĠAĠBĠCĠDĠEĠFğC0Ġ1Ġ2Ġ3Ġ4Ġ5Ġ6Ġ7Ġ8Ġ9ĠAĠBĠCĠDĠEĠFğD0Ġ",
    "1Ġ2Ġ3Ġ4Ġ5Ġ6Ġ7Ġ8Ġ9ĠAĠBĠCĠDĠEĠFğE0Ġ1Ġ2Ġ3Ġ4Ġ5Ġ6Ġ7Ġ8Ġ9ĠAĠBĠCĠDĠEĠFğF0Ġ1Ġ2Ġ3Ġ4Ġ5Ġ6Ġ7Ġ8Ġ9ĠAĠBĠCĠDĠEĠFĞ",
    "A00Ġ1Ġ2Ġ3Ġ4Ġ5Ġ6Ġ7Ġ8Ġ9ĠAĠBĠCĠDĠEĠFğ10Ġ1Ġ2Ġ3Ġ4Ġ5Ġ6Ġ7Ġ8Ġ9ĠAĠBĠCĠDĜF900ğ1ğ2ğ3ğ4ğ5ğ6ğ7ğ8ğ9ğAğBğCğDğEğ",
    "FĞ10ğ1ğ2ğ3ğ4ğ5ğ6ğ7ğ8ğ9ğAğBğCğDğEğFĞ20ğ1ğ2ğ3ğ4ğ5ğ6ğ7ğ8ğ9ğAğBğCğDğEğFĞ30ğ1ğ2ğ3ğ4ğ5ğ6ğ7ğ8ğ9ğAğBğCğD",
    "ğEğFĞ40ğ1ğ2ğ3ğ4ğ5ğ6ğ7ğ8ğ9ğAğBğCğDğEğFĞ50ğ1ğ2ğ3ğ4ğ5ğ6ğ7ğ8ğ9ğAğBğCğDğEğFĞ60ğ1ğ2ğ3ğ4ğ5ğ6ğ7ğ8ğ9ğAğBğ",
    "CğDğEğFĞ70ğ1ğ2ğ3ğ4ğ5ğ6ğ7ğ8ğ9ğAğBğCğDğEğFĞ80ğ1ğ2ğ3ğ4ğ5ğ6ğ7ğ8ğ9ğAğBğCğDğEğFĞ90ğ1ğ2ğ3ğ4ğ5ğ6ğ7ğ8ğ9ğA",
    "ğBğCğDğEğFĞA0ğ1ğ2ğ3ğ4ğ5ğ6ğ7ğ8ğ9ğAğBğCğDğEğFĞB0ğ1ğ2ğ3ğ4ğ5ğ6ğ7ğ8ğ9ğAğBğCğDğEğFĞC0ğ1ğ2ğ3ğ4ğ5ğ6ğ7ğ8ğ",
    "9ğAğBğCğDğEğFĞD0ğ1ğ2ğ3ğ4ğ5ğ6ğ7ğ8ğ9ğAğBğCğDğEğFĞE0ğ1ğ2ğ3ğ4ğ5ğ6ğ7ğ8ğ9ğAğBğCğDğEğFĞF0ğ1ğ2ğ3ğ4ğ5ğ6ğ7",
    "ğ8ğ9ğAğBğCğDğEğFĝA00ğ1ğ2ğ3ğ4ğ5ğ6ğ7ğ8ğ9ğAğBğCğDğEğFĞ10ğ1ğ2ğ3ğ4ğ5ğ6ğ7ğ8ğ9ğAğBğCğDğEğFĞ20ğ1ğ2ğ3ğ4ğ5",
    "ğ6ğ7ğ8ğ9ğAğBğCğDğEğFĞ30ğ1ğ2ğ3ğ4ğ5ğ6ğ7ğ8ğ9ğAğBğCğDğEğFĞ40ğ1ğ2ğ3ğ4ğ5ğ6ğ7ğ8ğ9ğAğBğCğDğEğFĞ50ğ1ğ2ğ3ğ",
    "4ğ5ğ6ğ7ğ8ğ9ğAğBğCğDğEğFĞ60ğ1ğ2ğ3ğ4ğ5ğ6ğ7ğ8ğ9ğAğBğCğDĞ70ğ1ğ2ğ3ğ4ğ5ğ6ğ7ğ8ğ9ğAğBğCğDğEğFĞ80ğ1ğ2ğ3ğ4",
    "ğ5ğ6ğ7ğ8ğ9ğAğBğCğDğEğFĞ90ğ1ğ2ğ3ğ4ğ5ğ6ğ7ğ8ğ9ğAğBğCğDğEğFĞA0ğ1ğ2ğ3ğ4ğ5ğ6ğ7ğ8ğ9ğAğBğCğDğEğFĞB0ğ1ğ2ğ",
    "3ğ4ğ5ğ6ğ7ğ8ğ9ğAğBğCğDğEğFĞC0ğ1ğ2ğ3ğ4ğ5ğ6ğ7ğ8ğ9ğAğBğCğDğEğFĞD0ğ1ğ2ğ3ğ4ğ5ğ6ğ7ğ8ğ9ĄRADICAL BAMBOOčL",
    "UEčOLT OF CLOTHĎNEĎXčRUSH ONEĒTWOČC-SIMPLIFIED BIRDęCARTęDRAGONęEATĚVENęFISHĚLYĚROGęGATEĚOLDęHOR",
    "SEęLEAFĚONGęSALTĚEEĚHELLĚILKĚPEECHęTANNED LEATHERĚOOTHĚURTLEęWINDčHOKEčITYĎVILIANčLIFFĎOTHESčOWČ",
    "DEATHčIVINATIONčOGČEAT ONEĐTHREEđWOčWEčYEČFIREčOOTČGHOSTčRASS ONEĒTHREEēWOČHANDčEADďRT ONEĒTWOčO",
    "RNČJ-SIMPLIFIED DRAGONęEVENęTOOTHĚURTLEčADEČKNIFE ONEĒTWOČLAME FOURđONEđTHREEĒWOčONG ONEđTWOČMEA",
    "TĎSHčOONĎRTARĎTHERĎUND ONEĒTWOČNET FOURĐONEĐTHREEđWOČOLDČPAW ONEĐTWOčERSONČRAINĎMĎPčEPEATČSEALĎC",
    "OND ONEēTHREEĔWOčHEEPčILKĎMPLIFIED HALF TREE TRUNKĘORNėWALKĘHEATėYELLOWčMALL ONEĒTWOčNAKEĎOUT ON",
    "EĒTWOčPIRIT ONEēTWOčUNČTABLEčHREADčIGERčURTLEČWALK ONEđTWOĎTER ONEĒTWOčEST ONEđTWOĄSTROKE BXGċDċ",
    "HČGČPčWGČXWGČZčGčTčWĎGčZĎPĎZďGċNċPČDČGČZċQċSČGČPČTČWčGčZČZčWGčZċTČNċWGċXGāLAMSHELL MOBILE PHONEă",
    "PPER BOARDąING HANDS SIGNăSSICAL BUILDINGĂEAR SCREEN SYMBOLĂINKING BEER MUGSĉGLASSESăPBOARDĂOCK ",
    "FACE EIGHT OCLOCKĐ-THIRTYČLEVEN OCLOCKđ-THIRTYċFIVE OCLOCKď-THIRTYČOUR OCLOCKď-THIRTYċNINE OCLOC",
    "Kď-THIRTYċONE OCLOCKĎ-THIRTYċSEVEN OCLOCKĐ-THIRTYČIX OCLOCKĎ-THIRTYċTEN OCLOCKĎ-THIRTYČHREE OCLO",
    "CKĐ-THIRTYČWELVE OCLOCKđ-THIRTYčO OCLOCKĎ-THIRTYąWISE CLOSED CIRCLE ARROWċONTOUR INTEGRALĊDOWNWA",
    "RDS AND UPWARDS OPEN CIRCLE ARROWSĊGAPPED CIRCLE ARROWĊINTEGRALĊOPEN CIRCLE ARROWĊRIGHT AND LEFT",
    " SEMICIRCLE ARROWSďWARDS AND LEFTWARDS OPEN CIRCLE ARROWSĵ WITH CIRCLED ONE OVERLAYĊTOP SEMICIRC",
    "LE ARROWċRIANGLE-HEADED OPEN CIRCLE ARROWăSE UPąD BOOKćINTERSECTION WITH SERIFSćLOCK WITH KEYćMA",
    "ILBOX WITH LOWERED FLAGĔRAISED FLAGćSUBSETč OR EQUAL TOĉPERSETď OR EQUAL TOćUMBRELLAĈNION WITH S",
    "ERIFSĘ AND SMASH PRODUCTăUDą WITH LIGHTNINGċRAINċSNOWċTORNADOăWN FACEāOATĂCKROACHĄTAIL GLASSăONU",
    "TĂFFINĂINĂLLISION SYMBOLăONą EQUALSĆSIGNĂMBINING ACUTE ACCENTĖ BELOWĐTONE MARKď-GRAVE-ACUTEĐMACR",
    "ONċLMOST EQUAL TO ABOVEĚBELOWċNNUITY SYMBOLČTICLOCKWISE ARROW ABOVEĘRING OVERLAYċSTERISK ABOVEēB",
    "ELOWĊBINDU BELOWċREVEď BELOWď-MACRONČIDGE ABOVEđBELOWĊCANDRABINDUČRONď BELOWċEDILLAċIRCUMFLEX AC",
    "CENTě BELOWċLOCKWISE ARROW ABOVEĔRING OVERLAYċOMMA ABOVEĕ RIGHTĐBELOWČNJOINING MACRONě BELOWċYRI",
    "LLIC DASIA PNEUMATAēHUNDRED MILLIONS SIGNěTHOUSANDS SIGNēKAVYKAēLETTER AĚBEěIG YUSĚCHEĚDEěJERVĚE",
    "FěLěMěNěRěSĜ-TEĚFITAĚGHEĚHAĜRD SIGNĚIěEěOTIFIED AģBIG YUSģEĚKAĚLITTLE YUSĚMONOGRAPH UKĚOěMEGAĚPE",
    "ĚSHAĜCHAěOFT SIGNĚTEěSEĚUěKRAINIAN IEĚVEĚYATěERUěIěUĚZEěHEēMILLIONS SIGNēPALATALIZATIONĕYEROKĔOK",
    "RYTIEĔSILI PNEUMATAēTEN MILLIONS SIGNĔHOUSAND MILLIONS SIGNĔITLOĘ LEFT HALFęRIGHT HALFēVZMETĊDEL",
    "ETION MARKČVANAGARI DIGIT EIGHTěFIVEĜOURěNINEěONEěSEVENĜIXěTHREEĜWOěZEROĕLETTER AĜKAĜNAĜPAĜRAĜUĜ",
    "VIĕSIGN AVAGRAHAċIAERESISē BELOWē-RINGċOT ABOVEē LEFTĔRIGHTĎBELOWē LEFTčTED ACUTE ACCENTđGRAVE A",
    "CCENTČUBLE ACUTE ACCENTđBREVEĖ BELOWđCIRCUMFLEX ABOVEđGRAVE ACCENTđINVERTED BREVEğ BELOWđLOW LIN",
    "EđMACRONė BELOWđOPEN MARK BELOWĒVERLINEđPARENTHESES ABOVEĒLUS SIGN ABOVEěBELOWđRIGHTWARDS ARROW ",
    "BELOWēNG BELOWđTILDEĖ LEFT HALFėRIGHT HALFđVERTICAL LINE ABOVEğBELOWĚSTROKE OVERLAYĐD CIRCUMFLEX",
    " ACCENTČWN TACK BELOWĎWARDS ARROWĊENCLOSING CIRCLEĚ BACKSLASHĔDIAMONDĔKEYCAPĔSCREENĕQUAREĔUPWARD",
    " POINTING TRIANGLEċQUALS SIGN BELOWĊFERMATAċOUR DOTS ABOVEĊGLAGOLITIC LETTER AZUĜBIG YUSĝUKYĜCHR",
    "IVIĜDJERVIĝOBROĜFITAĝRITUĜGLAGOLIĜHERUĜIĝNITIAL IZHEĝOTATED BIG YUSĤSMALL YUSĝZHEĜKAKOĜLJUDIJEĜM",
    "YSLITEĜNASHIĜONUĜPOKOJIĜRITSIĜSHAĞTAĝLOVOĝMALL YUSĜTSIĝVRIDOĜUKUĜVEDEĜYATIĝERIğUĞSTUĝOĝUĜZEMLJAĝ",
    "HIVETEċRANTHA DIGIT FIVEęOURĘONEĘSIXĘTHREEęWOĘZEROĒLETTER AęKAęNAęPAęVIčPHEME JOINERčVE ACCENTĖ ",
    "BELOWĐTONE MARKď-ACUTE-GRAVEĐMACRONČEEK DIALYTIKA TONOSĐKORONISĐMUSICAL PENTASEMEĘTETRASEMEęRISE",
    "MEĐPERISPOMENIĐYPOGEGRAMMENIĊHOMOTHETIC ABOVEČOK ABOVEČRNĊINFINITYČVERTED BREVEĘ BELOWĕIDGE BELO",
    "WēDOUBLE ARCH ABOVEğBELOWċS BELOWĊKATAKANA-HIRAGANA SEMI-VOICED SOUND MARKĜVOICED SOUND MARKČVYK",
    "A ABOVE LEFTėRIGHTĊLATIN LETTER SMALL CAPITAL GĥLĥMĥNĥRĐSMALL LETTER AĞ WITH DIAERESISĞEĞLPHAĞOĞ",
    "VĝBĞETAĝCĞ CEDILLAĝDĝEĞSHĞTHĝFĞLATTENED OPEN A ABOVEĝGĝHĝIĞNSULAR DĥGĥRĥTĝKĝLĞ WITH DOUBLE MIDDL",
    "E TILDEĞONG SĝMĝNĝOĞ WITH DIAERESISĤLIGHT CENTRALIZATION STROKEĝPĝRĞ BELOWğROTUNDAĝSĞCHWAĝTĞURNE",
    "D W BELOWĝUĞ WITH DIAERESISĤLIGHT CENTRALIZATION STROKEĝVĝWĞ BELOWĝXĝZċEFT ANGLE ABOVEĕBELOWĐRRO",
    "W ABOVEĕBELOWĔHEAD ABOVEęBELOWďHALF RING ABOVEęBELOWđRPOON ABOVEďPARENTHESIS ABOVE LEFTěBELOW LE",
    "FTďRIGHT ARROW ABOVEěBELOWďTACK BELOWĎWARDS ARROW OVERLAYĔHARPOON WITH BARB DOWNWARDSċIGATURE LE",
    "FT HALFĜ BELOWēRIGHT HALFĝ BELOWčHT CENTRALIZATION STROKE BELOWċONG DOUBLE SOLIDUS OVERLAYďSOLID",
    "US OVERLAYĐTROKE OVERLAYďVERTICAL LINE OVERLAYČW LINEĊMACRONĐ BELOWđLEFT HALFĚ BELOWđRIGHT HALFě",
    " BELOWĐ-ACUTEđBREVEđGRAVEċINUS SIGN BELOWĊNOT TILDE ABOVEċUMBER SIGN ABOVEĊOGONEKĐ ABOVEċLD PERM",
    "IC LETTER ANĜDOIĜNENOEĜSIIĜZATAċPEN MARK BELOWċVERLINEĊPALATALIZED HOOK BELOWČRENTHESES ABOVEĖBE",
    "LOWĖOVERLAYċLUS SIGN ABOVEĔBELOWĊRETROFLEX HOOK BELOWČVERSE SOLIDUS OVERLAYđD COMMA ABOVEċIGHT A",
    "RROW ABOVEĖBELOWĕHEAD ABOVEěND DOWN ARROWHEAD BELOWĞUP ARROWHEAD BELOWĚBELOWĐHALF RING ABOVEĚBEL",
    "OWĒRPOON ABOVEĐPARENTHESIS ABOVE RIGHTĜBELOW RIGHTĐTACK BELOWďWARDS HARPOON WITH BARB DOWNWARDSČ",
    "NG ABOVEďBELOWďOVERLAYĊSEAGULL BELOWċHORT SOLIDUS OVERLAYđTROKE OVERLAYĐVERTICAL LINE OVERLAYċNA",
    "KE BELOWċQUARE BELOWĒRACKETS ABOVEċTRONG CENTRALIZATION STROKE BELOWċUSPENSION MARKĊTHREE DOTS A",
    "BOVEċILDEď BELOWĐLEFT HALF BELOWĐOVERLAYĐRIGHT HALF BELOWċRIPLE ACUTE ACCENTđDOTđUNDERDOTċURNED ",
    "COMMA ABOVEĊUP TACK ABOVEĒBELOWČWARDS ARROW BELOWċR ABOVEċS ABOVEĊVERTICAL LINE ABOVEĘBELOWēTILD",
    "EĊWIDE BRIDGE ABOVEďINVERTED BRIDGE BELOWČGGLY LINE BELOWĊX ABOVEČBELOWċ-X BELOWĊZIGZAG ABOVEđBE",
    "LOWăETăMAĄERCIAL ATċMINUS SIGNăPASSĄLEMENTĄOSITION SYMBOLĄRESSIONĂNFETTI BALLĄOUNDED FACEĄUSED F",
    "ACEăGRUENT WITH DOT ABOVEăICAL TAPERăJUNCTIONăSTRUCTION SIGNčWORKERăTAINS AS MEMBERČNORMAL SUBGR",
    "OUPě OR EQUAL TOĉWITH LONG HORIZONTAL STROKEĎOVERBARĎVERTICAL BAR AT END OF HORIZONTAL STROKEĄIN",
    "UOUS UNDERLINE SYMBOLĄOUR INTEGRALĄROL KNOBSĈSEQUENCE INTRODUCERăVENIENCE STOREĂOKED RICEĄIEąNGĂ",
    "PTIC CAPITAL LETTER AKHMIMIC KHEIėLFAĖBOHAIRIC KHEIĖCROSSED SHEIĘYPTOGRAMMIC EIEĤGANGIAĤNIĤSHEIĖ",
    "DALDAėEIėIALECT-P ALEFĠHORIĠKAPAĠNIĖEIEĖFEIėIĖGAMMAĘNGIAĖHATEėORIĖIAUDAĖKAPAėHEIĘIėSIĖL-SHAPED H",
    "AėAULAĖMIĖNIĖOėLD COPTIC AINġDJAġESHġGANGIAġHAģTĢEIĢORIġOOUġSHEIģIMAĚNUBIAN NGIĢYIġSHIMAġWAUėOUĖ",
    "PIėSIĖROĖSAMPIėHEIĘIMAėIMAėOUĖTAUėHETHEĖUAĖVIDAĖZATAĈOMBINING NI ABOVEđSPIRITUS ASPERĚLENISćEPAC",
    "T DIGIT EIGHTēFIVEĔOURēNINEēONEēSEVENĔIXēTHREEĔWOčNUMBER EIGHT HUNDREDęYĔFIFTYĖVE HUNDREDĕORTYĖU",
    "R HUNDREDĔNINE HUNDREDĘTYĔONE HUNDREDĔSEVEN HUNDREDęTYĕIX HUNDREDėTYĔTENĕHIRTYĖREE HUNDREDĕWENTY",
    "ĖO HUNDREDčTHOUSANDS MARKćFRACTION ONE HALFĈULL STOPćMORPHOLOGICAL DIVIDERćOLD NUBIAN DIRECT QUE",
    "STION MARKĒFULL STOPĒINDIRECT QUESTION MARKĒVERSE DIVIDERćSMALL LETTER AKHMIMIC KHEIĕLFAĔBOHAIRI",
    "C KHEIĔCROSSED SHEIĖYPTOGRAMMIC EIEĢGANGIAĢNIĢSHEIĔDALDAĕEIĕIALECT-P ALEFĞHORIĞKAPAĞNIĔEIEĔFEIĕI",
    "ĔGAMMAĖNGIAĔHATEĕORIĔIAUDAĔKAPAĕHEIĖIĕSIĔL-SHAPED HAĕAULAĔMIĔNIĔOĕLD COPTIC AINğDJAğESHğGANGIAğH",
    "AġTĠEIĠORIğOOUğSHEIġIMAĘNUBIAN NGIĠYIğSHIMAğWAUĕOUĔPIĕSIĔROĔSAMPIĕHEIĖIMAĕIMAĕOUĔTAUĕHETHEĔUAĔVI",
    "DAĔZATAĈYMBOL KAIďHI ROĎMI ROĎPI ROĎSHIMA SIMAďTAUROSĎTAU ROăYLEFT SYMBOLĄRIGHT SIGNĂRALăNISH VE",
    "RSE DIVIDERăRESPONDS TOĂUCH AND LAMPăNTERBOREćSINKąING ROD TENS DIGIT EIGHTĘFIVEęOURĘNINEĘONEĘSE",
    "VENęIXĘTHREEęWOčUNIT DIGIT EIGHTĘFIVEęOURĘNINEĘONEĘSEVENęIXĘTHREEęWOăPLE WITH HEARTĂWă FACEāRĂAB",
    "ĂEDIT CARDăSCENT MOONĂICKETć BAT AND BALLĂOCODILEăISSANTăSS MARKĆOF JERUSALEMĉLORRAINEĆPATTY WIT",
    "H LEFT CROSSBARđRIGHT CROSSBARćOMMEEČ WITH HALF-CIRCLE BELOWąED FLAGSĈNEGATIVE SQUARED LATIN CAP",
    "ITAL LETTER PĈSWORDSąING LANESăWNĂUTCHăZEIRO SIGNĂYING CAT FACEćFACEăSTAL BALLāSIāUBE ROOTĂCUMBE",
    "RĂNEIFORM NUMERIC SIGN EIGHT ASHĝDISHĝGESH2ĝSHAR2ĝUĞ VARIANT FORMĝVARIANT FORM USSUĮ3ĘLAMITE FIF",
    "TYĠORTYğONE THIRDğTWO THIRDSėFIVE ASHğ TENUĜBAN2Ġ VARIANT FORMĝURUĜDISHĜGESH2ĠUĜSHAR2ĠUĝIXTHS DI",
    "SHĜUĝ VARIANT FORMĘOUR ASHğ TENUĜBAN2Ġ VARIANT FORMĝURUĜDISHĜGESH2ĠUĜSHAR2ĠUĜUĝ VARIANT FORMĜVAR",
    "IANT FORM LIMMUĮ AįBĮ4ėNIGIDAESHĝMINęNE ASHĜDISHĜGESH2ĜSHAR2ĜUĝ VARIANT FORMĜVARIANT FORM ILIMMU",
    "į Aį3į4ėOLD ASSYRIAN ONE QUARTERĨSIXTHĘNE BAN2ĜURUěEIGHTH ASHĜSHE3ěGESH2ğUěHALF GURěQUARTER ASHģ",
    "GURěSHARUěTHIRD DISHġVARIANT FORM AėSEVEN ASHĝDISHĝGESH2ĝSHAR2ĝUĞ VARIANT FORMĝVARIANT FORM IMIN",
    " AįBĮ3ĘHAR2 TIMES GAL PLUS DISHĬMINĘIX ASHĞ TENUěDISHěGESH2ěSHAR2ěUĜ VARIANT FORMěVARIANT FORM A",
    "SH9ėTHREE ASHĠ TENUĝBAN2ĞURUġ VARIANT FORMĝDISHĝGESH2ġUĝSHAR2Ģ VARIANT FORMġUĢ VARIANT FORMĝVARI",
    "ANT FORM ESH16ĭ21ĘWO ASHĞ TENUěBAN2ĜURUěESHE3ěGESH2ğUěSHAR2ğUěTHIRDS DISHĢVARIANT FORM AĊPUNCTUA",
    "TION SIGN DIAGONAL COLONĤQUADCOLONĤTRICOLONěOLD ASSYRIAN WORD DIVIDERěVERTICAL COLONĊSIGN AĐ TIM",
    "ES AėBADėGAN2 TENUėHAėIGIėLAGAR GUNUėMUSHėSAGĐ2ĐBđ GUNUĒTIMES ASH2ĘDUN3 GUNUĘGALĚN2 TENUĘHAĘIGI ",
    "GUNUęMINĘLAGABĘNUNě TENUĘSHESHĚU2ĘU PLUS U PLUS Uđ2Ē TIMES AęBALAGęGAN2 TENUęME PLUS ENęSHA3ęTAK",
    "4ĐDđ TIMES ESH2ĐKđ TIMES ERIN2ĘSHITA PLUS GISHĐLđ TIMES ALĘDIM2ĘGISHĘHAĘKAD3ęIĘSHEĘUSHđANđEPHĐMA",
    "Rē TIMES KUGĚSHEĐNđ OVER ANĒPLUS NAGA OPPOSING AN PLUS NAGAĜSQUAREDĒTHREE TIMESđSHEĐPINĐRADē TIM",
    "ES KURđKABĐSAL2đHĒ KABA TENUēOVER ASH OVER ASHĤ CROSSING ASH OVER ASH OVER ASHĜTUG2 OVER TUG2 TU",
    "G2 OVER TUG2 PAPēZIDA TENUĒ2ĒGABďBAđDĒ TIMES DISH TENUđG3đHAR2ĕ TIMES AB2ĜNIĜZAđLĒ OVER BALĒAGđR",
    "ĒA2ĐIđ TIMES AĘGARĘIGI GUNUĐUđ CROSSING BUĒOVER BU ABĚTIMES NA2ĚUNđLUGĔ OVER BULUGđRĒ2ďDAđ TIMES",
    " TAK4đGĒ KISIM5 TIMES A PLUS MASHġMARĠBALAGġIĠGAĢ PLUS MASHġIĢR2ġUDĠHAĠIRĢ PLUS LUĠKAKĠLAġUĢ PLU",
    "S MASH2ĢMĠNEĠPAP PLUS PAPĠSIĠTAK4ĠU2 PLUS GIR2ĨMASHġSHēTIMES KURĒ3đMđRĒA3ē4ĐIđBđMĒ TIMES IGIęSHE",
    "ęU U UĒ2ē TIMES UDđNĒ KASKAL U GUNU DISHđSHē PLUS SHUĐUđ GUNUĒOVER DUĒSHESHIGđBĒ TIMES ESH2ęSHEĒ",
    "2đGĒ TIMES ANSHEĚSHĜ AT LEFTęDINĚUNęERIN2ęGAĚIěR2 GUNUěSHęHAĚIęIGI GUNUęKASKALĚURěSHU2ğ PLUS KAS",
    "KALęLAK-020ěMĜ TIMES KURĚUH PLUS GISHęMASHĚESĚIęNIęPIęSHEĚI GUNUĒUDđHđNĒ3ē GUNUĘ GUNUĒ4đR2ďEĐ OV",
    "ER E NUN OVER NUNđTIMES PAPĐ2đ TIMES A PLUS HA PLUS DAĘGARĘKURĘMIĘPAPĘSALęHEĘUĐDINĐGIRĐLĐNđ CROS",
    "SING ENĒOPPOSING ENĒSQUAREDĒTIMES GAN2Ĝ TENUĘMEĐRENđIN2Ĕ XĐSH2ē CROSSING ESH2ĐZENē SHESHIG TIMES",
    " ASHĢHIĢIGI GUNUĢLAĤLĢMEĤSĢSUĔTIMES Aě PLUS LALĤ TIMES LALěNĚBADĚDUN3 GUNUģ GUNUĚGUDĚHAĜ GUNUĚIG",
    "I GUNUĚKASKALĠ SQUAREDěU3ĚLAĜL TIMES LALěIěUĚSHEěUĚU2ěDďGAđ GUNUđ2Ē OVER GA2ēTIMES A PLUS DA PLU",
    "S HAĠHAĠIGIĚB2 TENU PLUS TABĚNě PLUS KAK PLUS AĚSHĜ2ĝ PLUS GALęBADěHAR2ěR PLUS RAĚURĜ PLUS RAęDA",
    "ĚIěM GUNUĝTIMES SHEĚUBěG TIMES IGI GUNUģKASKALęELě PLUS LAĚNě TIMES GAN2 TENUĚRENęGAěN2 TENUěRĜ ",
    "PLUS DIĢNEĚIě4Ĝ PLUS AěR2 PLUS SUęHA PLUS AġLU PLUS ESH2ěLĜ PLUS LAĚI PLUS LIĚUB2ęIGI GUNUĚSH PL",
    "US HU PLUS ASHęKAKěSKALĚIDĜ PLUS LALĚU3 PLUS ANěSHU2 PLUS KASKALęLAěMĜ TIMES KURĚUHęME PLUS ENĚI",
    "ĚUSHęNEě PLUS E2ġGIĚUNĜ OVER NUNęPAęSALěRĚHEĜ PLUS TURěIDĜMĚUMęTAK4ęUĚDě PLUS DUęZIZ2đBAē CROSSI",
    "NG GABAĔROTATED NINETY DEGREESđDĒ OVER GAD GAR OVER GARđLĒ GAD OVER GAD GAR OVER GARĒAMđMđNĒ2ē C",
    "ROSSING GAN2ĔOVER GAN2ĔTENUđRĒ3đSHANĐE22đSHTINĖ TIMES KURĝUĐIđ CROSSING GIĒTIMES EĘUđ4Ē CROSSING",
    " GI4ēOVER GI4đDIMđGđR2ē GUNUĒ3ē TIMES A PLUS IGIĚGAN2 TENUĚIGIĚLU PLUS IGIĚPAđSALĒHē CROSSING GI",
    "SHĔTENUĕIMES BADĚGISH CROSSING GISHĚTAK4ĐUđ CROSSING GUđ2Ē GUNUēTIMES IGI GUNUęKAKĜ TIMES IGI GU",
    "NUęNUNęSAL PLUS TUG2đDĒ OVER GUD LUGALēPLUS GISH TIMES TAK4ēTIMES A PLUS KURęKURđLđMĒ TIMES SHEđ",
    "RĒ7ĒUNēSHďHAđ GUNUĒTENUĖ GUNUđLĐIđ TIMES ASHě OVER HI TIMES ASHě2ĘBADĘDISHĘGADĘKINĘNUNĘSHEĘUĐUđB",
    "2ē TIMES ANĚHALĚKASKALĚLISHĚUDđL2đSHďIĐ AĐBĐDIMē OVER IDIM BURĞSQUAREDĐGđIĒ DIBēGUNUēOVER IGI SH",
    "IR OVER SHIR UD OVER UDēRIĐLđ TIMES GAN2 TENUđ2ĐMđ CROSSING IMĒOPPOSING IMĒSQUAREDĒTIMES TAK4đIN",
    "ĐNĐRĐSHďKAđ TIMES AęDĚ PLUS KU3ęNSHEęSH2ě3ĘBADĚLAGĚRęIęUĘERIN2ęSH2ĘGAĚLĚN2 TENUĚRě PLUS SHA3 PLU",
    "S AęIĚR2ĚSHĜ CROSSING GISHĝPLUS SARęUĚDĚR7ĘHI TIMES ASH2ĘIGIęMĘKAĚKęIĚDĘLIęUĚMĘMEĚ PLUS DUĠGIĠTE",
    "ęIĚ PLUS NUNUZĘNEęUNĘPAęIĘRUĘSAĚRęHAĚEĚIDĚUěLęIGęUHURĘTARęUĘUę U Uę2ęDęMUM TIMES PAęRĚ2ęSHĘZIđ2Ē",
    " CROSSING KA2đBđD2Ē3Ē4Ē5ē OVER KAD5đKĒ TIMES IGI GUNUđLĒ CROSSING KALēTIMES BADđM2Ē4đP ELAMITEđS",
    "KALĕ LAGAB TIMES U OVER LAGAB TIMES UĖOVER KASKAL LAGAB TIMES U OVER LAGAB TIMES UĐESH2ĐIđ TIMES",
    " BADĘUęDđDđNđSALĒHĒIM5ĕ OVER KISIM5ĐUđ OVER HI TIMES ASH2 KU OVER HI TIMES ASH2đ3đ4Ē VARIANT FOR",
    "Mđ7đLĒ GUNUđNđRĒ OPPOSING KURđSHU2ĐWU318ďLAđGABĔ SQUAREDĕTIMES AĜ PLUS DA PLUS HAĢGARĢLALĜLĜNĜSH",
    " ZIDA TENUěBADĜIěDARěENěGAĝRĜIĜUDĞ PLUS GUDěHAĝLĜI TIMES NUNěIGI GUNUĜMĝ PLUS HAģLUěKIĝNĜU3ĝLĞ P",
    "LUS HI PLUS AěLAGABĜISHĜUĝLěMEĝ PLUS ENĜUSHěNEěSHE PLUS SUMĝITA PLUS GISH PLUS ERIN2īTENUĝU2ğ PL",
    "US SHU2ĜUMěTAGĝK4ĜE PLUS A PLUS SU PLUS NAěUĜ PLUS AĢU PLUS UĜ2 PLUS ASHĜDĜSHěZU OVER ZUēRĔ GUNU",
    "ę OVER LAGAR GUNU SHEĕTIMES SHEĞ PLUS SUMđHSHUđK-003Ĕ21ĕ5Ĕ30Ĕ50ĕ1Ĕ62Ĕ79 OVER LAK-079 GUNUĔ80ĕ1 O",
    "VER LAK-081Ĕ92ē130Ĕ42ē210ĕ9Ĕ20ĕ5ĕ8Ĕ38Ĕ65ĕ6ē343ĕ7ĕ8Ĕ83ĕ4Ĕ90ē441ĕ9Ė TIMES GUĝIGIĝPAP PLUS LU3ĦPAP ",
    "PLUS LU3ĝU2 PLUS BAĔ50ĕ7Ĕ70Ĕ83Ĕ90ĕ2ĕ3ĕ5ē550ē608Ĕ17Ė TIMES ASHĝBADĝDUN3 GUNU GUNUĝKU3ĝLAĝTARĞEĝU2",
    "ĞDĞRUDAĔ36Ĕ48Ė TIMES DUBĝGAĝIGIĠ GUNUĝNIĝPAP PLUS PAP PLUS LU3ĝSHESH PLUS KIĝUDĞRUDAē724Ĕ49đLĒ T",
    "IMES LALđMĒ TIMES KURĜ PLUS RUĐIđLđMMU2đSHĐUđ TIMES BADđ2Ē CROSSING LU2ēGUNU TIMES ASHēOPPOSING ",
    "LU2ēSHESHIGĚ TIMES BADĔQUAREDēTENUĔIMES ALęBADęDISHęESH2ĝ PLUS LALĞTENUęGAN2 TENUęHALĚI TIMES BA",
    "DęIMęKAD2Ĝ3ĝ PLUS ASHĚIęLA PLUS ASHěGABęME PLUS ENęNEĚUęPAPĜ PLUS PAP PLUS LU3ęSHUĚI PLUS ASHěK2",
    " PLUS BUęTAK4ĚUG2đ3đGALĔ OPPOSING LUGALĖVER LUGALĕSHESHIGđHđLđMĒ OVER LUMě GAR OVER GARďMAđ GUNU",
    "ĒTIMES TAK4đ2đHđRđSHē2ĐEđSĒHĐIđ PLUS ZA7đNĐUđ OVER MUđGĒ GUNUđNSUBđRGU2đSHē CROSSING MUSHĔOVER M",
    "USHĝ TIMES A PLUS NAĤGAĤKAKĔTIMES AĚKURĚZAē3Ĕ GUNUĕTIMES AĜ PLUS DIěDIěZAďNAđ2đ4đGAē INVERTEDĔOP",
    "POSING NAGAĔTIMES SHU TENUēRđMĒ NUTILLUĒ2ĐEđ SHESHIGĒTIMES AĘUDĐIđ TIMES Eđ2đMĒ TIMES GAN2 TENUě",
    "R PLUS GAN2 TENUđNĒ9ĒDA2ĕ TIMES ANĝSHğ PLUS ASHĜBALĜDIM GUNUĜGIĞSHĝUDĞLĜHIĜKESH2ĜLAK-050ĜMASHĝE ",
    "PLUS GAN2 TENUĜNEĝUNĜPAP PLUS PAPĜSHEğ PLUS A ANĦSHĨ PLUS ASHĜUĝ PLUS Uĝ2 PLUS ASHĝRUDAĝSHđSAGĐU",
    "đ11ē OVER NU11 BUR OVER BURĔROTATED NINETY DEGREESĔTENUđNĒ CROSSING NUNğ LAGAR OVER LAGARēLAGAR ",
    "TIMES GARğMASHğSALĢ OVER NUN LAGAR TIMES SALğUSHēOVER NUNēTENUĒUZĔ AB2 TIMES ASHGABğBIğDUGğGUDğI",
    "GI GUNUğKAD3ğLAğNEğSILA3ğU2ĕKISIM5 TIMES BIĤ UďPAđDđNđPĐESH2Ĕ ASTERISKĐIđ CROSSING PIĒTIMES AęBĘ",
    "BIęUĘEĘIęBĘUę2đR2ĒIGĔ OPPOSING PIRIGĕTIMES KALěUDěZAďRAđBĐIĐUďSAđGĒ GUNUė TIMES HAēNUTILLUēOVER ",
    "SAGēTIMES AęDUěBęENęHAęIGI GUNUęKAKĚURęLUMęMIęNUNęSALĚHE AT LEFTěIDęTABěK4ęU2ĚBĚMĚRĚSHđLĒ LAGAB ",
    "TIMES ASH2đNGA2đRĐHAĒ3ē TIMES AĚBADĚGISHĚNEĚSHU2ĚTURĚUě PLUS AĒ6ē TENUĒB6ĒR2đEĒ HUēOVER SHEě GAD",
    " OVER GAD GAR OVER GARĜTAB OVER TAB GAR OVER GARēPLUS HUB2ĘNAM2ĘSARĒG9ĒNĒSHĔ2ĔLAMđIDē TIMES AĚIM",
    "ĒMē TIMES AĚBALěULUGĚDINĚGARĚIGIĝ GUNUĚKUSHU2ĚLULĚMUGĚSALĒNIGĒRē OVER SHIR BUR OVER BURĔTENUĒTAđ",
    "UĒ OVER INVERTED SHUĒ2ē PLUS DUG TIMES NIęE2 TIMES ANĒBURĐIđ GUNUĒTIMES TAK4đGĒ4ē OVER SIG4 SHU2",
    "đK2đLA3ĐUđ OVER SUđDĒ2đHURđMĒASHđRĒ9ďTAđ ASTERISKĒGUNUĒTIMES HIĘMIđBĒ OVER TAB NI OVER NI DISH O",
    "VER DISHēSQUAREDđGĒ TIMES BIęGUDęSHEěUęTUG2ęUDđK4ē PLUS SAGđRĐEđ GUNUĐIđ TENUđ2đLđRĒ OVER TIRě G",
    "AD OVER GAD GAR OVER GARēTIMES TAK4ĐUđG2đKđMĒ TIMES GAN2 TENUęTHREE DISHđRĒ OVER TUR ZA OVER ZAď",
    "UĐ GUDđOVER U PA OVER PA GAR OVER GARĘSUR OVER SURĘU REVERSED OVER U REVERSEDđUĒ UĐ2ĐBĐDđ GUNUĒK",
    "USHU2ĒSHESHIGę TIMES BADĒTIMES BADĘMIĘU PLUS U PLUS Uħ GUNUđUGĐMđ TIMES LAGABĘMEĚ PLUS DAĘSHA3ĘU",
    "đBINđUMē TIMES KASKALĚPAĐNđ GUNUĐRđ CROSSING URĒSHESHIGđ2Ē INVERTEDēTIMES A PLUS HAĠNAĚLęHAęNUNę",
    "U2ě PLUS ASHġBIĚDđ4đIĒ3đUĒ TIMES AĚSHGABęBARęDARA3ĚUNęGAěLěN2 TENUěRĚUęHAęIGIĚMĚSHęKIęLAK-668ĚU3",
    "ěMęMINęPAęSHEĚIG4ęTUęU PLUS GUDĚDĚRUDAĒDAĔ TIMES UĐSHĒ TIMES AęKUěRęTAK4Ē2ĒUMXĒXĐTUKIĐZ3Ē TIMES ",
    "KASKALđUďZAđ SQUARED TIMES KURĒTENUđ7đGđMXĐE2ĐIđ OVER ZIđ3đBĒ KABA TENUđGđZ2ĐUđ OVER ZU PLUS SAR",
    "đ5Ē TIMES AęTHREE DISH TENUđBURđMĂP ON BLACK SQUAREĄWITH STRAWăCAKEăIDOĂRLING STONEĄY BRACKET EX",
    "TENSIONĆLOGICAL ANDĎORĈOPăRENCY EXCHANGEĉSIGNĄY AND RICEăVED STEM PARAGRAPH SIGN ORNAMENTĂSTARDĄ",
    "OMSĂT OF MEATāYCLONEĂLINDRICITYĂPRIOT SYLLABLE AđEđIđJAĒOđKAĒEĒIĒOĒUđLAĒEĒIĒOĒUđMAĒEĒIĒOĒUđNAĒEĒ",
    "IĒOĒUđOđPAĒEĒIĒOĒUđRAĒEĒIĒOĒUđSAĒEĒIĒOĒUđTAĒEĒIĒOĒUđUđWAĒEĒIĒOđXAĒEđZAĒOĄO-MINOAN SIGN CM001Ė2Ė4",
    "Ė5Ė6Ė7Ė8Ė9ĕ10Ė1Ė2ėBĖ3Ė5Ė7Ė9ĕ21Ė3Ė4Ė5Ė6Ė7Ė8Ė9ĕ30Ė3Ė4Ė5Ė6Ė7Ė8Ė9ĕ40Ė1Ė4Ė6Ė7Ė9ĕ50Ė1Ė2Ė3Ė4Ė5Ė6Ė8Ė9ĕ60",
    "Ė1Ė2Ė3Ė4Ė6Ė7Ė8Ė9ĕ70Ė1Ė2Ė3Ė4Ė5ėBĖ6Ė8Ė9ĕ80Ė1Ė2Ė3Ė4Ė5Ė6Ė7Ė8Ė9ĕ90Ė1Ė2Ė4Ė5Ė6Ė7Ė8Ė9Ĕ100Ė1Ė2Ė3Ė4Ė5Ė7Ė8Ė",
    "9ĕ10Ė2Ė4Ĕ301Ė2ĂRILLIC CAPITAL LETTER Aę WITH BREVEğDIAERESISęBKHASIAN CHEĥ WITH DESCENDERĢDZEĢHA",
    "ęLEUT KAĘBARRED OĠ WITH DIAERESISĚSHKIR KAęEęIG YUSĚNOCULAR OęLENDED YUSęROAD OMEGAęYELORUSSIAN-",
    "UKRAINIAN IĘCCHEęHEě WITH DESCENDERĢIAERESISġVERTICAL STROKEęLOSED LITTLE YUSęROSSED OĘDCHEęEęJE",
    "ěRVęOUBLE MONOCULAR OğOęWEęZEěLOĚHEĚWEĚZEěHEĘEę WITH DIAERESISęFęLĚ WITH DESCENDERĠHOOKĠMIDDLE H",
    "OOKĠTAILęMĚ WITH TAILęNĚ WITH DESCENDERĠHOOKĠLEFT HOOKĠMIDDLE HOOKĠTAILęRĚ WITH TICKęSĚ WITH DES",
    "CENDERĘFITAĘGHEě WITH DESCENDERġMIDDLE HOOKġSTROKEħ AND HOOKġUPTURNęJEĘHAĚ WITH DESCENDERĠHOOKĠS",
    "TROKEĚRD SIGNęWEĘIę WITH DIAERESISğGRAVEğMACRONęEĚ WITH BREVEĠGRAVEęOĚTAěIFIED AġBIG YUSġCLOSED ",
    "LITTLE YUSġEġLITTLE YUSġYATęZHITSAğ WITH DOUBLE GRAVE ACCENTĘJEĘKAĚ WITH DESCENDERĠHOOKĠSTROKEĠV",
    "ERTICAL STROKEęHAKASSIAN CHEęJEęOMI DEĞJEĞZJEĝLJEĝNJEĝSJEĝTJEĝZJEĚPPAęSIĘLHAęITTLE YUSęJEĘMONOCU",
    "LAR OĜGRAPH UKĘNEUTRAL YERęJEĘOę WITH DIAERESISęMEGAĝ WITH TITLOęTĘPEĚ WITH DESCENDERĠMIDDLE HOO",
    "KęSIĘQAĘREVERSED DZEġTSEġYUġZEęHAęOUND OMEGAĘSCHWAĝ WITH DIAERESISęEMISOFT SIGNęHAĚCHAĚHAĜ WITH ",
    "DESCENDERĚORT Iğ WITH TAILĞUĚWEęOFT DEĝELĞMĝSIGNęTRAIGHT UĢ WITH STROKEĘTCHEęEĚ WITH DESCENDERĠM",
    "IDDLE HOOKęSEĚHEĚSEĚWEęWEĘUę WITH DIAERESISĠOUBLE ACUTEğMACRONęKĚRAINIAN IEĘVEĘWEĘYAĚEĚTęERUĜ WI",
    "TH BACK YERĢDIAERESISęIęNęUĘZEĚ WITH DESCENDERġIAERESISĚMLYAęHEě WITH BREVEġDESCENDERĢIAERESISĚW",
    "EĒIGATURE A IEĚEN GHEĚTE TSEĉKAVYKAĉLETTER MULTIOCULAR OĐPALOCHKAĐSMALL CAPITAL ELĉPAYEROKĉSMALL",
    " LETTER Aė WITH BREVEĝDIAERESISėBKHASIAN CHEģ WITH DESCENDERĠDZEĠHAėLEUT KAĖBARRED OĞ WITH DIAER",
    "ESISĘSHKIR KAėEėIG YUSĘNOCULAR OėLENDED YUSėROAD OMEGAėYELORUSSIAN-UKRAINIAN IĖCCHEėHEę WITH DES",
    "CENDERĠIAERESISğVERTICAL STROKEėLOSED LITTLE YUSėROSSED OĖDCHEėEėJEęRVėOUBLE MONOCULAR OĝOėWEėZE",
    "ęLOĘHEĘWEĘZEęHEĖEė WITH DIAERESISėFėLĘ WITH DESCENDERĞHOOKĞMIDDLE HOOKĞTAILėMĘ WITH TAILėNĘ WITH",
    " DESCENDERĞHOOKĞLEFT HOOKĞMIDDLE HOOKĞTAILėRĘ WITH TICKėSĘ WITH DESCENDERĖFITAĖGHEę WITH DESCEND",
    "ERğMIDDLE HOOKğSTROKEĥ AND HOOKğUPTURNėJEĖHAĘ WITH DESCENDERĞHOOKĞSTROKEĘRD SIGNėWEĖIė WITH DIAE",
    "RESISĝGRAVEĝMACRONėEĘ WITH BREVEĞGRAVEėOĘTAęIFIED AğBIG YUSğCLOSED LITTLE YUSğEğLITTLE YUSğYATėZ",
    "HITSAĝ WITH DOUBLE GRAVE ACCENTĖJEĖKAĘ WITH DESCENDERĞHOOKĞSTROKEĞVERTICAL STROKEėHAKASSIAN CHEė",
    "JEėOMI DEĜJEĜZJEěLJEěNJEěSJEěTJEěZJEĘPPAėSIĖLHAėITTLE YUSėJEėONG-LEGGED DEĖMONOCULAR OĚGRAPH UKĖ",
    "NARROW OėEUTRAL YERėJEĖOė WITH DIAERESISėMEGAě WITH TITLOėTĖPALOCHKAėEĘ WITH DESCENDERĞMIDDLE HO",
    "OKėSIĖQAĖREVERSED DZEğTSEğYUğZEėHAėOUND OMEGAěED VEĖSCHWAě WITH DIAERESISėEMISOFT SIGNėHAĘCHAĘHA",
    "Ě WITH DESCENDERĘORT Iĝ WITH TAILĜUĘWEėOFT DEěELĜMěSIGNėTRAIGHT UĠ WITH STROKEĖTALL HARD SIGNěTE",
    "ěYATėCHEėEĘ WITH DESCENDERĞMIDDLE HOOKėHREE-LEGGED TEėSEĘHEĘSEĘWEėWEĖUė WITH DIAERESISĞOUBLE ACU",
    "TEĝMACRONėKĘRAINIAN IEėNBLENDED UKĖVEĖWEėIDE ESĖYAĘEĘTėERUĚ WITH BACK YERĠDIAERESISėIėNėUĖZEĘ WI",
    "TH DESCENDERğIAERESISĘMLYAėHEę WITH BREVEğDESCENDERĠIAERESISĘWEĐIGATURE A IEĘEN GHEĘTE TSEĉTHOUS",
    "ANDS SIGNĀDAGGERĆ KNIFEćWITH LEFT GUARDČRIGHT GUARDĂLET SYMBOLĂNCERăGOĂRK SHADEĆUNGLASSESĂSH SYM",
    "BOLąWITH LEFT UPTURNĄED LOW LINEćOVERLINEćTRIANGLE-HEADED RIGHTWARDS ARROWĂTA LINK ESCAPEāC1Ă2Ă3",
    "Ă4ĂSāEAF PERSONĂCIDUOUS TREEĄMAL EXPONENT SYMBOLĈSEPARATOR KEY SYMBOLăREASE FONT SIZE SYMBOLĂERĂ",
    "GREE CELSIUSćFAHRENHEITćSIGNĂLăETEăIVERY TRUCKăTA EQUAL TOĂNTISTRY SYMBOL LIGHT DOWN AND HORIZON",
    "TALĪ WITH CIRCLEİTRIANGLEİWAVEėUP AND HORIZONTALĨ WITH CIRCLEĮTRIANGLEĮWAVEėVERTICAL AND BOTTOM ",
    "LEFTīRIGHTĤTOP LEFTĨRIGHTĤWAVEĠWITH CIRCLEĥTRIANGLEĂPARTMENT STOREĂRELICT HOUSE BUILDINGĂSCENDIN",
    "G NODEăERET CAPITAL LETTER AYėBEEėCHEEėDEEėEFĘLĘMĘNęGĘRĘSęHĘTHĘWėGAYėHėJEEėKAYėLONG AĝHĜEĜIĜOĝOė",
    "OIĘWėPEEėSHORT AĞHĝEĝIĝOĞOėTEEĘHEEėVEEėWUėYEEėZEEĘHEEĈSMALL LETTER AYĕBEEĕCHEEĕDEEĕEFĖLĖMĖNėGĖRĖ",
    "SėHĖTHĖWĕGAYĕHĕJEEĕKAYĕLONG AěHĚEĚIĚOěOĕOIĖWĕPEEĕSHORT AĜHěEěIěOĜOĕTEEĖHEEĕVEEĕWUĕYEEĕZEEĖHEEąTĆ",
    " ISLANDăKTOP COMPUTERĈWINDOWĂVANAGARI ABBREVIATION SIGNČCUTE ACCENTċCARETċDANDAČIGIT EIGHTđFIVEĒ",
    "OURđNINEđONEđSEVENĒIXđTHREEĒWOđZEROČOUBLE DANDAċGAP FILLERČRAVE ACCENTċHEADSTROKEċJAIN OMċLETTER",
    " AēAēIēUēWēYĒBAēBAēHAĒCAĔNDRA AęEęOēHAĒDAēDAĔDAĕHAĔHAēHAĒEĒFAĒGAēGAēHAĔHAēLOTTAL STOPĒHAēEAVY YA",
    "ĒIēIĒJAēHAēJAĒKAēHAĔHAĒLAēLAĔLAĒMAĔRWARI DDAĒNAēGAēNAĔNAēYAĒOēEēOEĒPAēHAĒQAĒRAēHAēRAĒSAēHAĔORT A",
    "ĘEĘOēSAĒTAēHAēTAĔHAĒUēEēUĔEĒVAēOCALIC LěLĚRěRĒYAēYAĒZAēHAċOMċSIGN ANUSVARAđVAGRAHAĐCANDRABINDUě ",
    "AVAGRAHAĜTHREEĝWOĜVIRAMAĐDOUBLE CANDRABINDU VIRAMAĐHIGH SPACING DOTĐINVERTED CANDRABINDUĐNUKTAĐP",
    "USHPIKAĐSIDDHAMđPACING CANDRABINDUĐVIRAMAĒSARGAČTRESS SIGN ANUDATTAėUDATTAċVOWEL SIGN AAėIėUėWėY",
    "ĖCANDRA EĝLONG EĝOĖEĖIėIĖOėEėOEĖPRISHTHAMATRA EĖSHORT EĜOĖUėEėUĘEĖVOCALIC LğLĞRğRăICE CONTROL FO",
    "URďONEďSTRINGďTHREEĐWOāIAERESISăMETER SIGNĄOND OPERATORĈSHAPE WITH A DOT INSIDEĈTARGETĈWITH BOTT",
    "OM HALF BLACKčLEFT HALF BLACKčRIGHT HALF BLACKčTOP HALF BLACKĂE FACE-1ĉ2ĉ3ĉ4ĉ5ĉ6ăSEL LOCOMOTIVEĂ",
    "FFERENCE BETWEENĂGIT EIGHTċ COMMAČFULL STOPĆFIVEĊ COMMAċFULL STOPćOURĊ COMMAċFULL STOPĆNINEĊ COM",
    "MAċFULL STOPĆONEĉ COMMAĊFULL STOPĆSEVENċ COMMAČFULL STOPćIXĉ COMMAĊFULL STOPĆTHREEċ COMMAČFULL S",
    "TOPćWOĉ COMMAĊFULL STOPĆZEROĊ COMMAċFULL STOPăRAM FOR EARTHĐLY HEAVENĔUMANċGREATER YANGĔINċHEAVE",
    "NLY EARTHČUMAN EARTHċLESSER YANGēINĂMENSION ORIGINĂNGBAT CIRCLED SANS-SERIF DIGIT EIGHTġFIVEĢOUR",
    "ġNINEġONEġSEVENĢIXġTHREEĢWOġZEROěNUMBER TENĈNEGATIVE CIRCLED DIGIT EIGHTğFIVEĠOURğNINEğONEğSEVEN",
    "ĠIXğTHREEĠWOęNUMBER TENęSANS-SERIF DIGIT EIGHTĪFIVEīOURĪNINEĪONEĪSEVENīIXĪTHREEīWOĪZEROĤNUMBER T",
    "ENĂRECT CURRENT SYMBOL FORM TWOćHITĂSABLED CARĄPPOINTED BUT RELIEVED FACEčFACEăCONTINUOUS UNDERL",
    "INE SYMBOLăGUISED FACEĂTTO MARKĂVES AKURU DIGIT EIGHTĒFIVEēOURĒNINEĒONEĒSEVENēIXĒTHREEēWOĒZEROčO",
    "UBLE DANDAČEND OF TEXT MARKČGAP FILLERČINITIAL RAČLETTER AĔAēBAĔHAēCAĔHAēDAĔDAĕHAĔHAēEēGAĔHAēHAē",
    "IĔIēJAēKAĔHAēLAĔLAēMAēNAĔGAĔNAĔYAēOēPAĔHAēRAēSAĔHAĔSAēTAĔHAĔTAēUĔUēVAēYAĔYAēZAČMEDIAL RAēYAČPREF",
    "IXED NASAL SIGNČSIGN ANUSVARAđCANDRABINDUđHALANTAđNUKTAČVIRAMAčOWEL SIGN AAĘIėEėIĘIėOėUĘUăIDESĄN",
    "G MASKĄSION SIGNĊLASHĉTIMESăORCE SYMBOLĂYA LAMPĂZZY FACEĆSYMBOLāLEāNA DOUBLE HELIXāO NOT LITTER ",
    "SYMBOLĂCUMENTĈ WITH PICTUREĎTEXTĒ AND PICTUREĂDOĂES NOT CONTAIN AS MEMBERĔNORMAL SUBGROUPģ OR EQ",
    "UALĉDIVIDEď WITH REVERSED NEGATION SLASHĉFORCEĉPRECEDEĐ OR EQUALċOVEĉSUCCEEDĐ OR EQUALĂGă FACEăR",
    "A ABBREVIATION SIGNĆLETTER AĎAĎIĎUčBAĎHAčCAĎHAčDAĎDAďHAĎHAčEčGAĎHAčHAčIĎIčJAĎHAčKAĎHAčLAčMAčNAĎG",
    "AĎNAĎYAčOčPAĎHAčRAĎRAčSAĎHAĎSAčTAĎHAĎTAďHAčUĎUčVAčYAĆSIGN ANUSVARAċNUKTAċVIRAMAčSARGAĆVOWEL SIGN",
    " AAĒIĒUđEđIĒIđOđUĒUđVOCALIC RĚRĂLLAR SIGNăPHINĂMINO TILE HORIZONTAL BACKĖ-00-00ě1ě2ě3ě4ě5ě6Ę1-00",
    "ě1ě2ě3ě4ě5ě6Ę2-00ě1ě2ě3ě4ě5ě6Ę3-00ě1ě2ě3ě4ě5ě6Ę4-00ě1ě2ě3ě4ě5ě6Ę5-00ě1ě2ě3ě4ě5ě6Ę6-00ě1ě2ě3ě4ě5ě",
    "6ČVERTICAL BACKĔ-00-00ę1ę2ę3ę4ę5ę6Ė1-00ę1ę2ę3ę4ę5ę6Ė2-00ę1ę2ę3ę4ę5ę6Ė3-00ę1ę2ę3ę4ę5ę6Ė4-00ę1ę2ę3",
    "ę4ę5ę6Ė5-00ę1ę2ę3ę4ę5ę6Ė6-00ę1ę2ę3ę4ę5ę6ĂNG SIGNĂORĂT ABOVEĄMINUSĄOPERATORĄPLUSăTED CIRCLEĈROSSć",
    "FENCEćLINE FACEćOBELOSćRIGHT-POINTING ANGLEćSOLIDUSĈQUAREćTRANSPOSITION MARKERĂUBLE ACUTE ACCENT",
    "ćCIRCLED DIGIT EIGHTĕFIVEĖOURĕNINEĕONEĕSEVENĖIXĕTHREEĖWOďNUMBER TENĈOLON EQUALĈURLY LOOPćDAGGERĈ",
    "OWN TACKćEXCLAMATION MARKćHIGH-REVERSED-9 QUOTATION MARKĈYPHENćINTEGRALċRSECTIONćLEFT ARC GREATE",
    "R-THAN BRACKETĈOGICAL ANDďORĉW LINEĊ-9 QUOTATION MARKċREVERSED-9 QUOTATION MARKćNESTED GREATER-T",
    "HANĎLESS-THANė WITH UNDERBARćOBLIQUE HYPHENćPLUSĈRECEDESĉIMEČ QUOTATION MARKćQUESTION MARKćRIGHT",
    " ARC LESS-THAN BRACKETćSOLIDUS OPERATORĈQUARE INTERSECTIONĎUNIONĈTACKED COMMAĉROKE NOT SIGNĈUBSE",
    "TĉCCEEDSĉPERSETĉSPENSION MARKćUNIONĈP TACKćVERTICAL BARē DOUBLE LEFT TURNSTILEěRIGHT TURNSTILEĔL",
    "EFT TURNSTILEĐLINEćWAVY OVERLINEĆ-ENDED MULTIMAPćLINE EQUAL TO OR GREATER-THANĘLESS-THANČSLANTED",
    " EQUAL TO OR GREATER-THANĠLESS-THANĔGREATER-THAN OR EQUAL TOĔLESS-THAN OR EQUAL TOćSTRUCK CAPITA",
    "L CĖGAMMAĖHĖNĖPėIĖQĖRĖZĎITALIC CAPITAL DĕSMALL DěEěIěJĎN-ARY SUMMATIONĎSMALL GAMMAĔPIĆD FEMALE S",
    "IGNĈMALE SIGNĈSYMBOLăGHNUTĂVE OF PEACEĂWN ARROWHEADąFISH TAILąRIGHT DIAGONAL ELLIPSISąTACKĉ WITH",
    " CIRCLE BELOWĄ-POINTING RED TRIANGLEĎSMALL RED TRIANGLEĎTRIANGLE WITH LEFT HALF BLACKĜRIGHT HALF",
    " BLACKĄWARD FACING HOOKĔ WITH DOTĐNOTCHED HOOKĜ WITH DOTĈS ANCORAċRROWď AND RIGHT ONE EIGHTH BLO",
    "CKĐFROM BARĐLEFTWARDS OF UPWARDS ARROWĐTO BARĐWITH CORNER LEFTWARDSĕDOUBLE STROKEĕEQUILATERAL AR",
    "ROWHEADĕHORIZONTAL STROKEĕLARGE TRIANGLE ARROWHEADĕMEDIUM TRIANGLE ARROWHEADĕNOTCHED TAILĕSMALL ",
    "EQUILATERAL ARROWHEADěTRIANGLE ARROWHEADĕTIP LEFTWARDSęRIGHTWARDSĊBLACK ARROWĐCIRCLED WHITE ARRO",
    "WĊCOMPRESSED ARROWĊDASHED ARROWċOUBLE ARROWĊFINGER-POST ARROWĊHARPOON WITH BARB LEFT BESIDE DOWN",
    "WARDS HARPOON WITH BARB RIGHTĨUPWARDS HARPOON WITH BARB RIGHTġFROM BARġTO BARĠWARDSĜRIGHT FROM B",
    "ARĢTO BARġWARDSċEAVY ARROWĐCOMPRESSED ARROWĊPAIRED ARROWSĊQUADRUPLE ARROWĊROCKETĊSANS-SERIF ARRO",
    "WċQUARED ARROWĊTRIANGLE ARROWHEADĒ-HEADED ARROWğ LEFTWARDS OF UPWARDS TRIANGLE-HEADED ARROWĠTO B",
    "ARĠWITH BOLD SHAFTĥDOUBLE HORIZONTAL STROKEĥHEAVY SHAFTĥLONG TIP LEFTWARDSĮRIGHTWARDSĥMEDIUM SHA",
    "FTĥNARROW SHAFTĥVERY HEAVY SHAFTĚDASHED ARROWĚPAIRED ARROWSĚZIGZAG ARROWčPLE ARROWċWO HEADED ARR",
    "OWč-HEADED ARROW WITH TRIANGLE ARROWHEADSĊWHITE ARROWĕ WITHIN TRIANGLE ARROWHEADĊZIGZAG ARROWāRA",
    "CHMA SIGNăFTING POINT RIGHTWARDS ARROWăGONĆ FACEĂESSĂIVE SLOW SIGNĂOMEDARY CAMELăOLING FACEăP OF",
    " BLOODĄLETĂUM WITH DRUMSTICKSāUCKĂMPLINGĂPLOYAN AFFIX ATTACHED E HOOKĘI HOOKĘLEFT-TO-RIGHT SECAN",
    "TĘSECANTĘTAILĚNGENTğ HOOKďHIGH ACUTEĔCIRCLEĔDOTĔGRAVEĔLINEĕONG GRAVEĔTIGHT ACUTEĔVERTICALĜ SECAN",
    "TĔWAVEďLEFT HORIZONTAL SECANTĐOW ACUTEĔRROWēCIRCLEēDOTēGRAVEēLINEĔONG GRAVEēTIGHT ACUTEēVERTICAL",
    "ě SECANTēWAVEďMID HORIZONTAL SECANTēVERTICAL SECANTďRIGHT HORIZONTAL SECANTĉDOUBLE MARKĉLETTER A",
    "đOUĐBĐDđ SđHĐEđEđUĐFđ NĐGđ R SĐHđLĐIđEĐJđ Mē SĒNē SĒSē WITH DOTĒWITH DOTĚS INSIDE AND ABOVEĐKđ M",
    "ĒR SđKĐLđHđONG IĕUĐMđ Nē SĒSĒWITH DOTĐNđ Mē SĒSĒWITH DOTđASAL AĖIĖOĖUĐOđAđOHđUđWĐPđ NđERNIN AMĘN",
    "ĐRđ SđHđOMANIAN IęUĐSđ Jē SĒKē RĒMĒNĒPē RĒSĒTē RĒWITH DOTĚ BELOWđHORT IđLOAN ANĖDHĖEEėHėNĖJĖONėW",
    "ĖUĐTđ R SĒSđHĐUđ NđHđIĐVđOCALIC MĐWđ RđAđEIđHđIđOĒWĐXđWĐYEĉPUNCTUATION CHINOOK FULL STOPĉSIGN O ",
    "WITH CROSSĉTHICK LETTER SELECTORāVDĀE-MAIL SYMBOLāAGLEĂRă OF MAIZEćRICEĄWITH HEARING AIDăTHą GLO",
    "BE AMERICASčSIA-AUSTRALIAČEUROPE-AFRICAćROUNDĂST SYRIAC CROSSāDITORIAL CORONISāGGĂYPTIAN HIEROGL",
    "YPH A001ė2ė3ė4ė5ĘAė6ĘAĘBė7ė8ė9Ė10ė1ė2ė3ė4ĘAė5ė6ė7ĘAė8ė9Ė20ė1ė2ė3ė4ė5ė6ė7ė8ė9Ė30ė1ė2ĘAė3ė4ė5ė6ė7ė",
    "8ė9Ė40ĘAė1ė2ĘAė3ĘAė4ė5ĘAė6ė7ė8ė9Ė50ė1ė2ė3ė4ė5ė6ė7ė8ė9Ė60ė1ė2ė3ė4ė5ė6ė7ė8ė9Ė70ĕA001Ę2Ę3Ę4Ę5Ę6Ę7ęA",
    "ęBĘ8Ę9ė10Ę1Ę2Ę3Ę4Ę5Ę6Ę7Ę8Ę9ė20Ę1Ę2Ę3Ę4Ę5Ę6Ę7Ę8Ę9ė30Ę1Ę2ĔB001ė2ė3ė4ė5ĘAė6ė7ė8ė9ĕEGIN SEGMENTĔC001",
    "ė2ĘAĘBĘCė3ė4ė5ė6ė7ė8ė9Ė10ĘAė1ė2ė3ė4ė5ė6ė7ė8ė9Ė20ė1ė2ė3ė4ĔD001ė2ė3ė4ė5ė6ė7ė8ĘAė9Ė10ė1ė2ė3ė4ė5ė6ė7",
    "ė8ė9Ė20ė1ė2ė3ė4ė5ė6ė7ĘAė8ė9Ė30ė1ĘAė2ė3ė4ĘAė5ė6ė7ė8ė9Ė40ė1ė2ė3ė4ė5ė6ĘAė7ė8ĘAė9Ė50ĘAĘBĘCĘDĘEĘFĘGĘH",
    "ĘIė1ė2ĘAė3ė4ĘAė5ė6ė7ė8ė9Ė60ė1ė2ė3ė4ė5ė6ė7ĘAĘBĘCĘDĘEĘFĘGĘHĔE001ė2ė3ė4ė5ė6ė7ė8ĘAė9ĘAĖ10ė1ė2ė3ė4ė5ė",
    "6ĘAė7ĘAė8ė9Ė20ĘAė1ė2ė3ė4ė5ė6ė7ė8ĘAė9Ė30ė1ė2ė3ė4ĘAė6ė7ė8ĕND SEGMENTĔF001ĘAė2ė3ė4ė5ė6ė7ė8ė9Ė10ė1ė2",
    "ė3ĘAė4ė5ė6ė7ė8ė9Ė20ė1ĘAė2ė3ė4ė5ė6ė7ė8ė9Ė30ė1ĘAė2ė3ė4ė5ė6ė7ĘAė8ĘAė9Ė40ė1ė2ė3ė4ė5ĘAė6ĘAė7ĘAė8ė9Ė50",
    "ė1ĘAĘBĘCė2ė3ĔG001ė2ė3ė4ė5ė6ĘAė7ĘAĘBė8ė9Ė10ė1ĘAė2ė3ė4ė5ė6ė7ė8ė9Ė20ĘAė1ė2ė3ė4ė5ė6ĘAė7ė8ė9Ė30ė1ė2ė3",
    "ė4ė5ė6ĘAė7ĘAė8ė9Ė40ė1ė2ė3ĘAė4ė5ĘAė6ė7ė8ė9Ė50ė1ė2ė3ė4ĔH001ė2ė3ė4ė5ė6ĘAė7ė8ĕORIZONTAL JOINERĔI001ė",
    "2ė3ė4ė5ĘAė6ė7ė8ė9ĘAĖ10ĘAė1ĘAė2ė3ė4ė5ĕNSERT AT BOTTOM ENDĥSTARTĞTOP ENDĢSTARTĔK001ė2ė3ė4ė5ė6ė7ė8Ĕ",
    "L001ė2ĘAė3ė4ė5ė6ĘAė7ė8ĔM001ĘAĘBė2ė3ĘAė4ė5ė6ė7ė8ė9Ė10ĘAė1ė2ĘAĘBĘCĘDĘEĘFĘGĘHė3ė4ė5ĘAė6ĘAė7ĘAė8ė9Ė2",
    "0ė1ė2ĘAė3ė4ĘAė5ė6ė7ė8ĘAė9Ė30ė1ĘAė2ė3ĘAĘBė4ė5ė6ė7ė8ė9Ė40ĘAė1ė2ė3ė4ĔN001ė2ė3ė4ė5ė6ė7ė8ė9Ė10ė1ė2ė3ė",
    "4ė5ė6ė7ė8ĘAĘBė9Ė20ė1ė2ė3ė4ė5ĘAė6ė7ė8ė9Ė30ė1ė2ė3ĘAė4ĘAė5ĘAė6ė7ĘAė8ė9Ė40ė1ė2ĕL001Ę2Ę3Ę4Ę5ęAĘ6Ę7Ę8Ę",
    "9ė10Ę1Ę2Ę3Ę4Ę5Ę6Ę7ęAĘ8Ę9ė20ĕU001Ę2Ę3Ę4Ę5Ę6Ę7Ę8Ę9ė10ęAĘ1ęAĘ2Ę3Ę4Ę5Ę6Ę7Ę8ęAĘ9ė20Ę1Ę2ęAĔO001ĘAė2ė3ė",
    "4ė5ĘAė6ĘAĘBĘCĘDĘEĘFė7ė8ė9Ė10ĘAĘBĘCė1ė2ė3ė4ė5ė6ė7ė8ė9ĘAĖ20ĘAė1ė2ė3ė4ĘAė5ĘAė6ė7ė8ė9ĘAĖ30ĘAė1ė2ė3ĘA",
    "ė4ė5ė6ĘAĘBĘCĘDė7ė8ė9Ė40ė1ė2ė3ė4ė5ė6ė7ė8ė9Ė50ĘAĘBė1ĕVERLAY MIDDLEĔP001ĘAė2ė3ĘAė4ė5ė6ė7ė8ė9Ė10ė1ĔQ",
    "001ė2ė3ė4ė5ė6ė7ĔR001ė2ĘAė3ĘAĘBė4ė5ė6ė7ė8ė9Ė10ĘAė1ė2ė3ė4ė5ė6ĘAė7ė8ė9Ė20ė1ė2ė3ė4ė5ė6ė7ė8ė9ĔS001ė2Ę",
    "Aė3ė4ė5ė6ĘAė7ė8ė9Ė10ė1ė2ė3ė4ĘAĘBė5ė6ė7ĘAė8ė9Ė20ė1ė2ė3ė4ė5ė6ĘAĘBė7ė8ė9Ė30ė1ė2ė3ė4ė5ĘAė6ė7ė8ė9Ė40ė",
    "1ė2ė3ė4ė5ė6ĔT001ė2ė3ĘAė4ė5ė6ė7ĘAė8ĘAė9ĘAĖ10ė1ĘAė2ė3ė4ė5ė6ĘAė7ė8ė9Ė20ė1ė2ė3ė4ė5ė6ė7ė8ė9Ė30ė1ė2ĘAė",
    "3ĘAė4ė5ė6ĔU001ė2ė3ė4ė5ė6ĘAĘBė7ė8ė9Ė10ė1ė2ė3ė4ė5ė6ė7ė8ė9Ė20ė1ė2ė3ĘAė4ė5ė6ė7ė8ė9ĘAĖ30ė1ė2ĘAė3ė4ė5ė",
    "6ė7ė8ė9Ė40ė1ė2ĔV001ĘAĘBĘCĘDĘEĘFĘGĘHĘIė2ĘAė3ė4ė5ė6ė7ĘAĘBė8ė9Ė10ė1ĘAĘBĘCė2ĘAĘBė3ė4ė5ė6ė7ė8ė9Ė20ĘAĘ",
    "BĘCĘDĘEĘFĘGĘHĘIĘJĘKĘLė1ė2ė3ĘAė4ė5ė6ė7ė8ĘAė9ĘAĖ30ĘAė1ĘAė2ė3ĘAė4ė5ė6ė7ĘAė8ė9Ė40ĘAĕERTICAL JOINERĔW",
    "001ė2ė3ĘAė4ė5ė6ė7ė8ė9ĘAĖ10ĘAė1ė2ė3ė4ĘAė5ė6ė7ĘAė8ĘAė9Ė20ė1ė2ė3ė4ĘAė5ĔX001ė2ė3ė4ĘAĘBė5ė6ĘAė7ė8ĘAĔY",
    "001ĘAė2ė3ė4ė5ė6ė7ė8ĔZ001ė2ĘAĘBĘCĘDė3ĘAĘBė4ĘAė5ĘAė6ė7ė8ė9Ė10ė1ė2ė3ė4ė5ĘAĘBĘCĘDĘEĘFĘGĘHĘIė6ĘAĘBĘCĘ",
    "DĘEĘFĘGĘHāIGHT PETALLED OUTLINED BLACK FLORETTEćOINTED BLACK STARĎPINWHEEL STARĎRECTILINEAR BLAC",
    "K STARĆSPOKED ASTERISKĆTEARDROP-SPOKED PROPELLER ASTERISKąH NOTEāJECT SYMBOLāLBASAN LETTER AďBEď",
    "CEĐHEďDEĐHEďEĐIďFEďGEĐHAMMAđEĐJEďHEďIďJEďKEĐHEďLEĐLEďMEďNAĐDEĐEĐJEďOďPEďQEďREĐREďSEĐHEďTEĐHEďUďV",
    "EďXEďYďZEĐHEĂECTRIC ARROWĉLIGHT BULBĉPLUGĉTORCHĈAL INTERSECTIONăMENT OFĊ OPENING DOWNWARDSēUPWAR",
    "DSċWITH DOT ABOVEĐLONG HORIZONTAL STROKEĐOVERBARĐTWO HORIZONTAL STROKESĐUNDERBARĐVERTICAL BAR AT",
    " END OF HORIZONTAL STROKEăPHANTăVATORĂFĂYMAIC LETTER ALEPHĐYINďBETHďDALETHďGIMELďHEđTHďKAPHďLAME",
    "DHďMEMďNUNďPEďQOPHďRESHďSADHEđMEKHĐHINďTAWĐETHďWAWďYODHďZAYINĉIGATURE ZAYIN-YODHāM DASHăQUADăSPA"]

/-- Part 3 of the front-coded names. -/
def namesPart3 : String := String.join [
    "CEĂOJI COMPONENT BALDĐCURLY HAIRĐRED HAIRĐWHITE HAIRĆMODIFIER FITZPATRICK TYPE-1-2Ġ3Ġ4Ġ5Ġ6ĂPHASI",
    "S SYMBOLăTY DOCUMENTĆNESTćOTEĊ PADčGEĆPAGEĊSĆSETĉ WITH LEFT ARROW ABOVEďOVERBARďRIGHT ARROW ABOV",
    "EďSMALL CIRCLE ABOVEāN DASHăQUADăSPACEĂD OF GUARDED AREAćLINEćMEDIUMćPROOFĊTECTED AREAćSELECTED ",
    "AREAćTEXTĈRANSMISSIONē BLOCKĄWITH LEFTWARDS ARROW ABOVEĂQăUIRYĂTER SYMBOLĂVELOPEĈ WITH DOWNWARDS",
    " ARROW ABOVEĎLIGHTNINGāOLĂMĂTāPAāQUAL AND PARALLEL TOĆTO BY DEFINITIONĉOR GREATER-THANČLESS-THAN",
    "ČPRECEDESČSUCCEEDSąS COLONćSIGNċ ABOVE LEFTWARDS ARROWĒPLUS SIGNĒRIGHTWARDS ARROWĒTILDE OPERATOR",
    "čND SLANTED PARALLELĠ WITH TILDE ABOVEČWITH BUMPY ABOVEđDOT BELOWđINFINITY BELOWđTWO DOTS ABOVE ",
    "AND TWO DOTS BELOWćWITH ASTERISKăIANGULAR TOĄVALENT TOċWITH FOUR DOTS ABOVEāRASE TO THE LEFTčRIG",
    "HTĂIS FORM ONEĊTWOĂROR-BARRED BLACK CIRCLEēDIAMONDēSQUAREčWHITE CIRCLEēDIAMONDēSQUAREāSAĂCăAPEĂT",
    "IMATED SYMBOLĈSāTBĂHIOPIC COLONċMBINING GEMINATION AND VOWEL LENGTH MARKĞMARKēVOWEL LENGTH MARKČ",
    "MAĉDIGIT EIGHTďFIVEĐOURďNINEďONEďSEVENĐIXďTHREEĐWOĉFULL STOPĉNUMBER EIGHTYĐFIFTYđORTYĐHUNDREDĐNI",
    "NETYĐSEVENTYđIXTYĐTENē THOUSANDđHIRTYđWENTYĉPARAGRAPH SEPARATORĊREFACE COLONĉQUESTION MARKĉSECTI",
    "ON MARKċMICOLONĊYLLABLE BAĔAēBAĕAĔEĕEĔIĔOĔUēEĔEēIēOĔAēUēWAĔEĕEĔIĒCAĔAēCAĕAĔEĕEĔHAĖAĕEĖEĕHAėAĖEėE",
    "ĖIĖOĖUĕIĕOĕUĔIĔOĔUēEĔEēHAĕAĔEĕEĔIĔOĕAĔUĔWAēIēOĔAēUēWAĒDAĔAēDAĕAĔEĕEĔHAAĕEĖEĕIĕOĕUĔIĔOĕAĔUĔWAēEĔE",
    "ēIēOĔAēUēWAēZAAĔEĕEĔIĔOĔUĒFAĔAēEĔEēIēOēUēWAĔEĕEĔIēYAĒGAĔAēEĔEēGAĕAĔEĕEĔIĔOĔUĔWAĖAĕEĖEĕIēIēLOTTAL",
    " AěAĚEěEĚIĚOěAĚUĚWAēOĔAēUĔRAGE BWEEěIęFWEEěIęGWEĜEěIęHHWAęKWEĜEěIęMWEEěIęPWEEěIęQWEĜEěIēWAĕAĔEĕE",
    "ĔIēYAĕAĔEĕEĔIĔOĔUĒHAĔAēEĔEēHAĕAĔEĕEĔIĔOĔUĔWAĕEĖEĕIĔYAĖAĕEĖEĕIĕOĕUēIēOĔAēUĒJAĔAēEĔEēIēOĔAēUēWAĒKA",
    "ĔAēEĔEēIēOĔAēUēWAĕAĔEĕEĔIēXAĕAĔEĕEĔIĔOĔUĔWAĖAĕEĖEĕIēYAĕAĔEĕEĔIĔOĔUĒLAĔAēEĔEēIēOĔAēUēWAĒMAĔAēEĔEē",
    "IēOĔAēUēWAĔEĕEĔIēYAĒNAĔAēEĔEēIēOĔAēUēWAēYAĕAĔEĕEĔIĔOĕAĔUĔWAĒPAĔAēEĔEēHAĕAĕRYNGEAL AĞAĝEĞEĝIĝOĝUĔ",
    "EĕEĔIĔOĕAĔUĔWAēIēOĔAēUēWAĔEĕEĔIĒQAĔAēEĔEēHAĕAĔEĕEĔIĔOĔUĔWAĖAĕEĖEĕIēIēOĔAēUēWAĕAĔEĕEĔIēYAĕAĔEĕEĔI",
    "ĔOĔUĒRAĔAēEĔEēIēOĔAēUēWAēYAĒSAĔAēEĔBATBEIT BWAĜFWAĜMWAĜPWAĔEēHAĕAĔEĕEĔIĔOĕAĔUĔWAēIēOĔAēSAĕAĔEĕEĔ",
    "IĔOĔUēUēWAēZAĕAĔEĕEĔIĔOĔUĔWAĒTAĔAēEĔEēHAĕAĔEĕEĔIĔOĕAĔUĔWAēIēOĔAēSAĕAĔEĕEĔIĔOĔUĔWAēTHAAĕEĖEĕIĕOĕU",
    "ēUēWAēZAĕAĔEĕEĔIĔOĕAĔUĒVAĔAēEĔEēIēOēUēWAĒWAĔAēEĔEēIēOĔAēUĒXAĔAēEĔEēIēOĔAēUēWAĕAĔEĕEĔIēYAĕAĔEĕEĔI",
    "ĔOĔUĒYAĔAēEĔEēIēOĔAēUĒZAĔAēEĔEēHAĕAĔEĕEĔIĔOĔUĔWAēIēOĔAēUēWAēZAĕAĔEĕEĔIĔOĔUĉTONAL MARK CHIRETĔDER",
    "ETę-HIDETĕIFATĔHIDETĔKENATĕURTĔRIKRIKĔSHORT RIKRIKĔYIZETĉWORDSPACEĂXāULER CONSTANTĂRO SIGNĄ-CURR",
    "ENCY SIGNĄPEAN CASTLEĉPOST OFFICEāVERGREEN TREEāXCESSăLAMATION MARKČQUESTION MARKĂPRESSIONLESS F",
    "ACEĂTENDED ARABIC-INDIC DIGIT EIGHTĜFIVEĝOURĜNINEĜONEĜSEVENĝIXĜTHREEĝWOĜZEROăRATERRESTRIAL ALIEN",
    "ĄEMELY HEAVY FIVE SPOKED ASTERISKĐGREEK CROSSĐSALTIREđIX SPOKED ASTERISKĐWHITE CIRCLEĖSQUAREāYEă",
    "GLASSESăSĀFACE HOLDING BACK TEARSąMASSAGEąPALMąSAVOURING DELICIOUS FOODĆCREAMING IN FEARąTHROWIN",
    "G A KISSąWITH COLD SWEATČWBOY HATĊDIAGONAL MOUTHĊFINGER COVERING CLOSED LIPSĊHEAD-BANDAGEĊLOOK O",
    "F TRIUMPHĊMEDICAL MASKċONOCLEĊNO GOOD GESTUREĊOK GESTUREċNE EYEBROW RAISEDċPEN EYES AND HAND OVE",
    "R MOUTHďMOUTHĔ AND COLD SWEATĕVOMITINGĊPARTY HORN AND PARTY HATċEEKING EYEċLEADING EYESĊROLLING ",
    "EYESĊSTUCK-OUT TONGUEĚ AND TIGHTLY-CLOSED EYESğWINKING EYEĊTEARS OF JOYċHERMOMETERĊUNEVEN EYES A",
    "ND WAVY MOUTHĉOUT MOUTHăSIMILE SIGNăTORYĂIRYĂLAFELăLEN LEAFĄING DIAGONAL CROSSING NORTH EAST ARR",
    "OWĚRISING DIAGONALđIN WHITE CIRCLE IN BLACK SQUAREĂMILYĂRSI SYMBOLĂTHER CHRISTMASĂX ICONĄMACHINE",
    "āEARFUL FACEăTHERĂMALE SIGNăININE ORDINAL INDICATORĂNCERĂRRIS WHEELĄYāFāIELD HOCKEY STICK AND BA",
    "LLĂGURE DASHćSPACEĂLE CABINETąFOLDERąSEPARATORăM FRAMESąPROJECTORĂNITE PART INTEGRALĂREĄ ENGINEĆ",
    "XTINGUISHERĄCRACKERĄWORK SPARKLERĈSăST PLACE MEDALĆQUARTER MOONĒ SYMBOLēWITH FACEĆSTRONG ISOLATE",
    "ĂSHĄ CAKE WITH SWIRL DESIGNĄEYEĄING POLE AND FISHăTED HAND SIGNĂVE DOT MARKĉPUNCTUATIONāLAG IN H",
    "OLEăMINGOăT SHOEĄBREADĄNESSĂEUR-DE-LISăXED BICEPSĂOPPY DISKăRAL HEARTăWERĆ PLAYING CARDSĈUNCTUAT",
    "ION MARKĂUSHED FACEĂYăING DISCćENVELOPEćSAUCERāOGăGYĂLDERĂNDUEĂOTĄPRINTSĂR ALLăCESăK AND KNIFEĎ ",
    "WITH PLATEĄED PARAGRAPHOSĄINGăM FEEDăTUNE COOKIEĂUNTAINăR BALLOON-SPOKED ASTERISKąCLUB-SPOKED AS",
    "TERISKĆORNER ARROWS CIRCLING ANTICLOCKWISEąDOT MARKĉPUNCTUATIONąLEAF CLOVERąPOINTED BLACK STARąT",
    "EARDROP-SPOKED ASTERISKĄ-PER-EM SPACEĄTH ROOTĂX FACEāRACTION NUMERATOR ONEĉSLASHăME WITH AN XċPI",
    "CTUREċTILESĂEEZING FACEăNCH FRANC SIGNĉIESĂIED SHRIMPĂOG FACEăNT-FACING BABY CHICKĆTILTED SHADOW",
    "ED WHITE RIGHTWARDS ARROWăWNąING FACE WITH OPEN MOUTHāSĂIāUEL PUMPĂLL BLOCKąMOON SYMBOLĊWITH FAC",
    "EąOUTER JOINąSTOPĄWIDTH AMPERSANDċPOSTROPHEċSTERISKĊBROKEN BARĊCENT SIGNċIRCUMFLEX ACCENTċOLONČM",
    "MAĎERCIAL ATĊDIGIT EIGHTĐFIVEđOURĐNINEĐONEĐSEVENđIXĐTHREEđWOĐZEROċOLLAR SIGNĊEQUALS SIGNċXCLAMAT",
    "ION MARKĊFULL STOPĊGRAVE ACCENTČEATER-THAN SIGNĊHYPHEN-MINUSĊLATIN CAPITAL LETTER AğBğCğDğEğFğGğ",
    "HğIğJğKğLğMğNğOğPğQğRğSğTğUğVğWğXğYğZĐSMALL LETTER AĝBĝCĝDĝEĝFĝGĝHĝIĝJĝKĝLĝMĝNĝOĝPĝQĝRĝSĝTĝUĝVĝW",
    "ĝXĝYĝZċEFT CURLY BRACKETďPARENTHESISďSQUARE BRACKETďWHITE PARENTHESISČSS-THAN SIGNċOW LINEĊMACRO",
    "NĊNOT SIGNċUMBER SIGNĊPERCENT SIGNċLUS SIGNċOUND SIGNĊQUESTION MARKČOTATION MARKĊREVERSE SOLIDUS",
    "ċIGHT CURLY BRACKETĐPARENTHESISĐSQUARE BRACKETĐWHITE PARENTHESISĊSEMICOLONċOLIDUSĊTILDEĊVERTICAL",
    " LINEĊWON SIGNĊYEN SIGNĂNCTION APPLICATIONăERAL URNĂSEāVS1ă2ă3ă4ĀGAME DIEĂRLICāEARĄ WITH HANDLES",
    "ĉOUT HUBĂM STONEăINIĂNIEĂOMETRIC PROPORTIONĉALLY EQUAL TOđIVALENT TOăRGIAN CAPITAL LETTER AENęNĘ",
    "BANĘCANęHARĚINęILĘDONĘENĘGANęHANĘHAEĚRęEęIEęOEĘINĘJHANęILĘKANęHARĘLASĘMANĘNARĘONĘPARęHARĘQARĘRAE",
    "ĘSANęHINĘTANĚRĘUNĘVINĘWEĘXANĘYNĘZENęHARĉLETTER AENđINđNĐBANĐCANđHARĒINđILĐDONĐELIFIđNĐFIĐGANđHAN",
    "ĐHAEĒRēD SIGNđEđIEđOEĐINĐJHANđILĐKANđHARĐLABIAL SIGNĒSĐMANĐNARĐONĐPARđHARĐQARĐRAEĐSANđHINĐTANĒRđ",
    "URNED GANĐUNĐVINĐWEĐXANĐYNĐZENđHARĉMTAVRULI CAPITAL LETTER AENĢINĢNġBANġCANĢHARģINĢILġDONġELIFIĢ",
    "NġFIġGANĢHANġHAEģRĤD SIGNĢEĢIEĢOEġINġJHANĢILġKANĢHARġLABIAL SIGNģSġMANġNARġONġPARĢHARġQARġRAEġSA",
    "NĢHINġTANģRĢURNED GANġUNġVINġWEġXANġYNġZENĢHARĉPARAGRAPH SEPARATORĉSMALL LETTER AENėNĖBANĖCANėHA",
    "RĘINėILĖDONĖENĖGANėHANĖHAEĘRėEėIEėOEĖINĖJHANėILĖKANėHARĖLASĖMANĖNARĖONĖPARėHARĖQARĖRAEĖSANėHINĖT",
    "ANĘRĖUNĖVINĖWEĖXANĖYNĖZENėHARĂRMAN PENNY SIGNĂTA MARKāHOSTāIMEL SYMBOLĂRAFFE FACEăLĄS SYMBOLāLAG",
    "OLITIC CAPITAL LETTER AZUĚBIG YUSěUKYĚCAUDATE CHRIVIěHRIVIĚDJERVIěOBROěZELOĚFITAěRITUĚGLAGOLIĚHE",
    "RUĚIěNITIAL IZHEěOTATED BIG YUSĢSMALL YUSěZHEĝITSAĚKAKOĚLATINATE MYSLITEěJUDIJEĚMYSLITEĚNASHIĚON",
    "UěTUĚPEěOKOJIĚRITSIĚSHAĜTAĞPICěLOVOěMALL YUSģ WITH TAILěPIDERY HAĚTROKUTASTI AěSIěVRIDOĚUKUĚVEDE",
    "ĚYATIěERIĝUĜSTUěOěUĚZEMLJAěHIVETEċSMALL LETTER AZUĘBIG YUSęUKYĘCAUDATE CHRIVIęHRIVIĘDJERVIęOBROę",
    "ZELOĘFITAęRITUĘGLAGOLIĘHERUĘIęNITIAL IZHEęOTATED BIG YUSĠSMALL YUSęZHEěITSAĘKAKOĘLATINATE MYSLIT",
    "EęJUDIJEĘMYSLITEĘNASHIĘONUęTUĘPEęOKOJIĘRITSIĘSHAĚTAĜPICęLOVOęMALL YUSġ WITH TAILęPIDERY HAĘTROKU",
    "TASTI AęSIęVRIDOĘUKUĘVEDEĘYATIęERIěUĚSTUęOęUĘZEMLJAęHIVETEăSS OF MILKĂEICH STARKĂOBE WITH MERIDI",
    "ANSăVESăWING STARāOAL NETăTĂGGLESĂLFERĂRILLAĂTHIC LETTER AHSAďIHVUSĎBAIRKANĎDAGSĎEISĎFAIHUĎGIBAĎ",
    "HAGLďWAIRĎIGGWSďUJAĎJERĎKUSMAĎLAGUSĎMANNAĎNAUTHSďINE HUNDREDĒTYĎOTHALĎPAIRTHRAĎQAIRTHRAĎRAIDAĎSA",
    "UILĎTEIWSďHIUTHĎURUSĎWINJAāRADUATION CAPăNTHA AU LENGTH MARKĈLETTER AĐAĐIĐUďBAĐHAďCAĐHAďDAĐDAđHA",
    "ĐHAďEEďGAĐHAďHAďIĐIďJAĐHAďKAĐHAďLAĐLAďMAďNAĐGAĐNAĐYAďOOďPAĐHAďRAďSAĐHAĐSAďTAĐHAĐTAđHAďUĐUďVAĐEDI",
    "C ANUSVARAĕDOUBLE ANUSVARAĐOCALIC LĘLėRĘRďYAĈOMĈSIGN ANUSVARAĎVAGRAHAčCANDRABINDUĎOMBINING ANUSV",
    "ARA ABOVEčNUKTAčPLUTAčVIRAMAďSARGAĈVOWEL SIGN AAĔIĔUēEEēIĔIēOOēUĔUēVOCALIC LĜLěRĜRăPESăVE ACCENT",
    "ĂEATER-THAN ABOVE DOUBLE-LINE EQUAL ABOVE LESS-THANēLESS-THAN ABOVE DOUBLE-LINE EQUALēRIGHTWARDS",
    " ARROWēSIMILAR ABOVE LESS-THANěOR EQUALĔLANTED EQUAL ABOVE LESS-THAN ABOVE SLANTED EQUALĎND NOT ",
    "APPROXIMATEđSINGLE-LINE NOT EQUAL TOčBESIDE LESS-THANĎUT NOT EQUAL TOĘIVALENT TOčCLOSED BY CURVE",
    "Ĝ ABOVE SLANTED EQUALčEQUAL TO OR LESS-THANčOR APPROXIMATEĐEQUAL TOēIVALENT TOĐLESS-THANĐSLANTED",
    " EQUAL TOĠ WITH DOT ABOVEį LEFTĪINSIDEĎVER EQUAL TOđLAPPING LESS-THANčSIGNčWITH CIRCLE INSIDEĒDO",
    "TĒQUESTION MARK ABOVEăEK ACROPHONIC ATTIC FIFTYĜ STATERSĝTALENTSĞHOUSANDĥ STATERSęVEě HUNDREDģ S",
    "TATERSĤTALENTSĜSTATERSĜTALENTSĝHOUSANDĤ TALENTSėONE DRACHMAěHALFĜUNDRED STATERSģTALENTSěQUARTERě",
    "THOUSAND STATERSĤTALENTSėTEN MNASěSTATERSěTALENTSĜHOUSAND STATERSđCARYSTIAN FIVE HUNDREDĒYRENAIC",
    " TWO DRACHMASđDELPHIC FIVE MNASđEPIDAUREAN FIVE HUNDREDĜTWOğ DRACHMASđHERAEUM ONE PLETHRONĔMIONI",
    "AN FIFTYĜONEĜTENđMESSENIAN TENđNAXIAN FIVE HUNDREDđSTRATIAN FIFTY MNASđTHESPIAN FIFTYĜVE HUNDRED",
    "ğTHOUSANDĚONEĝ HUNDREDĞTHOUSANDĚTENěHIRTYĜREE HUNDREDěWOĒROEZENIAN FIFTYġ ALTERNATE FORMĞVEĠ HUN",
    "DREDĜTENğ ALTERNATE FORMćNO TELEIAćROURA SIGNĈTABE SIGNĆBETA SYMBOLĆCAPITAL DOTTED LUNATE SIGMA ",
    "SYMBOLĎKAI SYMBOLĎLETTER ALPHAĚ WITH DASIAĥ AND OXIAĮ AND PROSGEGRAMMENIĪPERISPOMENIĵ AND PROSGE",
    "GRAMMENIīROSGEGRAMMENIĪVARIAį AND PROSGEGRAMMENIĠMACRONĠOXIAĠPROSGEGRAMMENIġSILIĥ AND OXIAĮ AND ",
    "PROSGEGRAMMENIĪPERISPOMENIĵ AND PROSGEGRAMMENIīROSGEGRAMMENIĪVARIAį AND PROSGEGRAMMENIĠTONOSĠVAR",
    "IAġRACHYĖRCHAIC SAMPIĕBETAĕCHIĕDELTAĕEPSILONĜ WITH DASIAħ AND OXIAĬVARIAĢOXIAĢPSILIħ AND OXIAĬVA",
    "RIAĢTONOSĢVARIAĖTAĘ WITH DASIAģ AND OXIAĬ AND PROSGEGRAMMENIĨPERISPOMENIĳ AND PROSGEGRAMMENIĩROS",
    "GEGRAMMENIĨVARIAĭ AND PROSGEGRAMMENIĞOXIAĞPROSGEGRAMMENIğSILIģ AND OXIAĬ AND PROSGEGRAMMENIĨPERI",
    "SPOMENIĳ AND PROSGEGRAMMENIĩROSGEGRAMMENIĨVARIAĭ AND PROSGEGRAMMENIĞTONOSĞVARIAĕGAMMAĕHETAĕIOTAę",
    " WITH DASIAĤ AND OXIAĩPERISPOMENIĩVARIAĠIALYTIKAğMACRONğOXIAğPSILIĤ AND OXIAĩPERISPOMENIĩVARIAğT",
    "ONOSğVARIAĠRACHYĕKAPPAĕLAMDAĕMUĕNUĕOMEGAĚ WITH DASIAĥ AND OXIAĮ AND PROSGEGRAMMENIĪPERISPOMENIĵ ",
    "AND PROSGEGRAMMENIīROSGEGRAMMENIĪVARIAį AND PROSGEGRAMMENIĠOXIAĠPROSGEGRAMMENIġSILIĥ AND OXIAĮ A",
    "ND PROSGEGRAMMENIĪPERISPOMENIĵ AND PROSGEGRAMMENIīROSGEGRAMMENIĪVARIAį AND PROSGEGRAMMENIĠTONOSĠ",
    "VARIAėICRONĜ WITH DASIAħ AND OXIAĬVARIAĢOXIAĢPSILIħ AND OXIAĬVARIAĢTONOSĢVARIAĕPAMPHYLIAN DIGAMM",
    "AĖHIĖIĖSIĕRHOĘ WITH DASIAĕSANĖHOĖIGMAĕTAUĖHETAĕUPSILONĜ WITH DASIAħ AND OXIAĬPERISPOMENIĬVARIAģI",
    "ALYTIKAĢMACRONĢOXIAĢTONOSĢVARIAģRACHYĕXIĕYOTĕZETAďUNATE SIGMA SYMBOLĎREVERSED DOTTED LUNATE SIGM",
    "A SYMBOLėLUNATE SIGMA SYMBOLĎTHETA SYMBOLĆDASIAċ AND OXIAĐPERISPOMENIĐVARIAćIALYTIKA AND OXIAĔPE",
    "RISPOMENIĔVARIAĐTONOSćRACHMA SIGNĆFIVE OBOLS SIGNćOUR OBOLS SIGNĆGRAMMA SIGNĆINDICTION SIGNĈSTRU",
    "MENTAL NOTATION SYMBOL-1Ĥ1Ĥ2Ĥ3Ĥ4Ĥ7Ĥ8Ĥ9ģ2Ĥ3Ĥ4Ĥ5Ĥ6Ĥ7Ĥ9ģ30Ĥ2Ĥ6Ĥ7Ĥ8Ĥ9ģ4Ĥ0Ĥ2Ĥ3Ĥ5Ĥ7Ĥ8Ĥ9ģ5Ĥ0Ĥ1Ĥ2Ĥ3Ĥ4ģ7ģ",
    "8ĆKAI SYMBOLĈPPA SYMBOLćORONISćYATHOS BASE SIGNĆLETTER ARCHAIC KOPPAčDIGAMMAčKOPPAčSAMPIĎMALL CA",
    "PITAL GAMMAěLAMDAěOMEGAěPIĜSIěRHOĎTIGMAčYOTćITRA SIGNćOWER NUMERAL SIGNćUNATE EPSILON SYMBOLčSIG",
    "MA SYMBOLĆMETRETES SIGNćUSICAL LEIMMAĆNUMERAL SIGNĆOBOL SIGNćNE HALF SIGNē ALTERNATE FORMĊQUARTE",
    "R SIGNćUNKIA SIGNćXIAĆPERISPOMENIćHI SYMBOLćI SYMBOLćROSGEGRAMMENIćSILIċ AND OXIAĐPERISPOMENIĐVA",
    "RIAĆQUESTION MARKĆREVERSED LUNATE EPSILON SYMBOLćHO SYMBOLĊWITH STROKE SYMBOLĆSINUSOID SIGNćMALL",
    " DOTTED LUNATE SIGMA SYMBOLČLETTER ALPHAĘ WITH DASIAģ AND OXIAĬ AND YPOGEGRAMMENIĨPERISPOMENIĳ A",
    "ND YPOGEGRAMMENIĨVARIAĭ AND YPOGEGRAMMENIĨYPOGEGRAMMENIĞMACRONĞOXIAĢ AND YPOGEGRAMMENIĞPERISPOME",
    "NIĩ AND YPOGEGRAMMENIğSILIģ AND OXIAĬ AND YPOGEGRAMMENIĨPERISPOMENIĳ AND YPOGEGRAMMENIĨVARIAĭ AN",
    "D YPOGEGRAMMENIĨYPOGEGRAMMENIĞTONOSĞVARIAģ AND YPOGEGRAMMENIğRACHYĞYPOGEGRAMMENIĔRCHAIC KOPPAěSA",
    "MPIēBETAēCHIēDELTAĔIGAMMAēEPSILONĚ WITH DASIAĥ AND OXIAĪVARIAĠOXIAĠPSILIĥ AND OXIAĪVARIAĠTONOSĠV",
    "ARIAĔTAĖ WITH DASIAġ AND OXIAĪ AND YPOGEGRAMMENIĦPERISPOMENIı AND YPOGEGRAMMENIĦVARIAī AND YPOGE",
    "GRAMMENIĦYPOGEGRAMMENIĜOXIAĠ AND YPOGEGRAMMENIĜPERISPOMENIħ AND YPOGEGRAMMENIĝSILIġ AND OXIAĪ AN",
    "D YPOGEGRAMMENIĦPERISPOMENIı AND YPOGEGRAMMENIĦVARIAī AND YPOGEGRAMMENIĦYPOGEGRAMMENIĜTONOSĜVARI",
    "Aġ AND YPOGEGRAMMENIĜYPOGEGRAMMENIēFINAL SIGMAēGAMMAēHETAēIOTAė WITH DASIAĢ AND OXIAħPERISPOMENI",
    "ħVARIAĞIALYTIKAĦ AND OXIAīPERISPOMENIīTONOSīVARIAĝMACRONĝOXIAĝPERISPOMENIĞSILIĢ AND OXIAħPERISPO",
    "MENIħVARIAĝTONOSĝVARIAĞRACHYēKAPPAĔOPPAēLAMDAēMUēNUēOMEGAĘ WITH DASIAģ AND OXIAĬ AND YPOGEGRAMME",
    "NIĨPERISPOMENIĳ AND YPOGEGRAMMENIĨVARIAĭ AND YPOGEGRAMMENIĨYPOGEGRAMMENIĞOXIAĢ AND YPOGEGRAMMENI",
    "ĞPERISPOMENIĩ AND YPOGEGRAMMENIğSILIģ AND OXIAĬ AND YPOGEGRAMMENIĨPERISPOMENIĳ AND YPOGEGRAMMENI",
    "ĨVARIAĭ AND YPOGEGRAMMENIĨYPOGEGRAMMENIĞTONOSĞVARIAģ AND YPOGEGRAMMENIĞYPOGEGRAMMENIĕICRONĚ WITH",
    " DASIAĥ AND OXIAĪVARIAĠOXIAĠPSILIĥ AND OXIAĪVARIAĠTONOSĠVARIAēPAMPHYLIAN DIGAMMAĔHIĔIĔSIēRHOĖ WI",
    "TH DASIAĜPSILIēSAMPIĕNĔHOĔIGMAĔTIGMAēTAUĔHETAēUPSILONĚ WITH DASIAĥ AND OXIAĪPERISPOMENIĪVARIAġIA",
    "LYTIKAĩ AND OXIAĮPERISPOMENIĮTONOSĮVARIAĠMACRONĠOXIAĠPERISPOMENIġSILIĥ AND OXIAĪPERISPOMENIĪVARI",
    "AĠTONOSĠVARIAġRACHYēXIēZETAČREVERSED DOTTED LUNATE SIGMA SYMBOLĕLUNATE SIGMA SYMBOLćUBSCRIPT SMA",
    "LL LETTER BETAĝCHIĝGAMMAĝPHIĝRHOćYMBOL TAU RHOĆTALENT SIGNćHETA SYMBOLĈREE OBOLS SIGNČQUARTERS S",
    "IGNćONOSćRYBLION BASE SIGNćWO OBOLS SIGNĊTHIRDS SIGNĆUPSILON WITH ACUTE AND HOOK SYMBOLēDIAERESI",
    "S AND HOOK SYMBOLēHOOK SYMBOLĆVARIAćOCAL NOTATION SYMBOL-1ĝ0ĝ1ĝ2ĝ3ĝ4ĝ5ĝ6ĝ7ĝ8ĝ9Ĝ2ĝ0ĝ1ĝ2ĝ3ĝ4Ĝ3Ĝ4Ĝ5",
    "ĝ0ĝ1ĝ2ĝ3ĝ4Ĝ6Ĝ7Ĝ8Ĝ9ĆXESTES SIGNĆYEAR SIGNćPOGEGRAMMENIĆZERO SIGNĄN APPLEĆBOOKĆHEARTĆSALADĂIMACING",
    " FACEăNNING CAT FACE WITH SMILING EYESĉFACEč WITH ONE LARGE AND ONE SMALL EYEēSMILING EYESĔTAR E",
    "YESĂOUP MARKĆSEPARATORăWING HEARTāSāUARANI SIGNĄDSMANĂIDE DOGăTARĂJARATI ABBREVIATION SIGNĉDIGIT",
    " EIGHTďFIVEĐOURďNINEďONEďSEVENĐIXďTHREEĐWOďZEROĉLETTER AđAđIđUĐBAđHAĐCAđHAĐDAđDAĒHAđHAĐEĐGAđHAĐH",
    "AĐIđIĐJAđHAĐKAđHAĐLAđLAĐMAĐNAđGAđNAđYAĐOĐPAđHAĐRAĐSAđHAđSAĐTAđHAđTAĒHAĐUđUĐVAđOCALIC LęLĘRęRĐYAĐ",
    "ZHAĉOMĉRUPEE SIGNĉSIGN ANUSVARAďVAGRAHAĎCANDRABINDUďIRCLE NUKTA ABOVEĎMADDAHĎNUKTAĎSHADDAďUKUNĎT",
    "HREE-DOT NUKTA ABOVEďWO-CIRCLE NUKTA ABOVEĎVIRAMAĐSARGAĉVOWEL CANDRA EĖOďSIGN AAĕIĕUĔCANDRA EěOĔ",
    "EĔIĕIĔOĔUĕUĔVOCALIC LĝLĜRĝRĂNJALA GONDI DIGIT EIGHTĔFIVEĕOURĔNINEĔONEĔSEVENĕIXĔTHREEĕWOĔZEROĎLET",
    "TER AĖAĖIĖUĕBAĖHAĕCAĖHAĕDAĖDAėHAĖHAĕEEĕGAĖHAĕHAĕIĖIĕJAĖHAĕKAĖHAĕLAĖLAĕMAĕNAĖGAĕOOĕPAĖHAĕRAĕSAĕTA",
    "ĖHAĖTAėHAĕUĖUĕVAĕYAĎOMĎSIGN ANUSVARAēVISARGAĎVIRAMAďOWEL SIGN AAĚIĚUęEEęIĚIęOOęUĚUĂRMUKHI ABBREV",
    "IATION SIGNĊDDAKĉDIGIT EIGHTďFIVEĐOURďNINEďONEďSEVENĐIXďTHREEĐWOďZEROĉEK ONKARĉIRIĉLETTER AđAđIđ",
    "UĐBAđHAĐCAđHAĐDAđDAĒHAđHAĐEEĐFAĐGAđHAĒHAĐHAĐIđIĐJAđHAĐKAđHAĒHAĐLAđLAĐMAĐNAđGAđNAđYAĐOOĐPAđHAĐRAđ",
    "RAĐSAđHAĐTAđHAđTAĒHAĐUđUĐVAĐYAĐZAĉSIGN ADAK BINDIĎBINDIĎNUKTAĎUDAATĎVIRAMAĐSARGAĎYAKASHĉTIPPIĉUR",
    "AĉVOWEL SIGN AAĕIĕUĔEEĔIĕIĔOOĔUĕUĀHADESĂIR SPACEĄCUTĂLFWIDTH BLACK SQUAREĊDOWNWARDS ARROWĊFORMS ",
    "LIGHT VERTICALĊHANGUL FILLERđLETTER AęEĘCHIEUCHęIEUCĘEęOęUĘHIEUHĘIęEUNGĘKHIEUKHęIYEOKĞ-SIOSĘMIEU",
    "MĘNIEUNĝ-CIEUCĞHIEUHĘOęEĘPHIEUPHęIEUPĝ-SIOSĘRIEULĝ-HIEUHĞKIYEOKĞMIEUMĞPHIEUPHğIEUPĞSIOSĞTHIEUTHĘ",
    "SIOSęSANGCIEUCĝKIYEOKĝPIEUPĝSIOSĝTIKEUTĘTHIEUTHęIKEUTĘUĘWAĚEęEĚOęIĘYAĚEęEĚOęIęOęUĊIDEOGRAPHIC CO",
    "MMAĖFULL STOPĊKATAKANA LETTER AĚEĚHAěEěIěOěUĚIĚKAěEěIěOěUĚMAěEěIěOěUĚNěAěEěIěOěUĚOĚRAěEěIěOěUĚSA",
    "ěEěIěMALL AĠEĠIĠOĠTUĠUĠYAġOġUěOěUĚTAěEěIěOěUĚUĚWAěOĚYAěOěUēMIDDLE DOTēSEMI-VOICED SOUND MARKēVOI",
    "CED SOUND MARKĒ-HIRAGANA PROLONGED SOUND MARKĊLEFT CORNER BRACKETĎWARDS ARROWĊRIGHT CORNER BRACK",
    "ETďWARDS ARROWĊUPWARDS ARROWĊWHITE CIRCLEĂMBURGERăMERĆ AND PICKċSICKLEċWRENCHăSAĄTER FACEĂND WIT",
    "H INDEX AND MIDDLE FINGERS CROSSEDĐFINGER AND THUMB CROSSEDĄBAGĆLLĄSHAKEăGUL CHOSEONG CEONGCHIEU",
    "MCHIEUCHĜIEUCěSIOSĜSANGCIEUCĠSIOSđHIEUCHė-HIEUHĘKHIEUKHēTUEUMCHIEUCHęIEUCĘSIOSęSANGCIEUCĝSIOSđIE",
    "UCĕ-IEUNGĐFILLERĐHIEUHĕ-SIOSĐIEUNGĕ-CHIEUCHėIEUCĖHIEUHĖKIYEOKĖMIEUMĖPANSIOSėHIEUPHėIEUPĖRIEULĖSI",
    "OSĖTHIEUTHėIKEUTĐKAPYEOUNMIEUMĘPHIEUPHęIEUPĘRIEULĘSSANGPIEUPđHIEUKHđIYEOKĖ-TIKEUTĐMIEUMĕ-KIYEOKĖ",
    "PIEUPĖSIOSĖTIKEUTĐNIEUNĕ-CIEUCĖHIEUHĖKIYEOKĖPIEUPĖSIOSĖTIKEUTĐPANSIOSđHIEUPHė-HIEUHĘPIEUPđIEUPĕ-",
    "CHIEUCHėIEUCĖHIEUHĖKHIEUKHėIYEOKĖNIEUNĖPHIEUPHĖSIOSĚ-CIEUCěKIYEOKěPIEUPěTHIEUTHĜIKEUTėSANGSIOSĖT",
    "HIEUTHėIKEUTĐRIEULĕ-CIEUCĖHIEUHĖKAPYEOUNPIEUPėHIEUKHėIYEOKĖMIEUMĖNIEUNĖPIEUPĖSIOSėSANGKIYEOKěPIE",
    "UPěTIKEUTĖTIKEUTĐSIOSĔ-CHIEUCHĖIEUCĕHIEUHĕIEUNGĕKHIEUKHĖIYEOKĕMIEUMĕNIEUNĕPHIEUPHĖIEUPĚ-KIYEOKĕR",
    "IEULĕSSANGSIOSĕTHIEUTHĖIKEUTđSANGCIEUCĚ-HIEUHĕHIEUHĕIEUNGĕKIYEOKĕNIEUNĕPIEUPĕRIEULĕSIOSę-PIEUPĕT",
    "HIEUTHĖIKEUTĕYEORINHIEUHĐTHIEUTHđIKEUTĖ-CIEUCėKIYEOKėMIEUMėPIEUPėRIEULėSIOSĐYEORINHIEUHĒSIEUNGćD",
    "OUBLE DOT TONE MARKćFILLERćJONGSEONG CHIEUCHĒIEUCĖ-PIEUPėSSANGPIEUPđHIEUHĖ-MIEUMėNIEUNėPIEUPėRIE",
    "ULđIEUNGĖ-KHIEUKHĘIYEOKėSSANGKIYEOKđKAPYEOUNMIEUMęPHIEUPHĚIEUPęRIEULĒHIEUKHĒIYEOKė-CHIEUCHĘHIEUH",
    "ĘKHIEUKHĘNIEUNĘPIEUPĘRIEULĘSIOSĜ-KIYEOKđMIEUMĖ-CHIEUCHĘIEUCėHIEUHėKIYEOKėNIEUNėPANSIOSĘIEUPĜ-SIO",
    "SėRIEULėSIOSĘSANGNIEUNĜSIOSđNIEUNĖ-CHIEUCHĘIEUCėHIEUHėKIYEOKėPANSIOSėRIEULėSIOSėTHIEUTHĘIKEUTđPA",
    "NSIOSĘ-KAPYEOUNPIEUPęPIEUPĒHIEUPHĘ-PIEUPęSIOSęTHIEUTHĒIEUPĖ-CHIEUCHĘIEUCėHIEUHėMIEUMėPHIEUPHėRIE",
    "ULĜ-PHIEUPHėSIOSě-TIKEUTėTIKEUTđRIEULĖ-HIEUHėKAPYEOUNPIEUPĘHIEUKHĘIYEOKĝ-HIEUHĞSIOSėMIEUMĜ-HIEUH",
    "ĝKIYEOKĝSIOSėNIEUNėPANSIOSĘHIEUPHĘIEUPĜ-HIEUHĝPHIEUPHĝSIOSĝTIKEUTėSIOSĘSANGKIYEOKĜSIOSėTHIEUTHĘI",
    "KEUTĝ-HIEUHėYEORINHIEUHĢ-HIEUHęSIEUNGđSIOSĕ-CHIEUCHėIEUCĖHIEUHĖKAPYEOUNPIEUPėIYEOKĖMIEUMĖPANSIOS",
    "ėIEUPĖRIEULĖTHIEUTHėIKEUTĒSANGCIEUCĖIEUNGĖKIYEOKĖMIEUMĖNIEUNĖPIEUPĖRIEULě-KHIEUKHĖSIOSĚ-KIYEOKěT",
    "IKEUTĖTIKEUTĜ-PIEUPĖYESIEUNGđTHIEUTHĒIKEUTė-CHIEUCHęIEUCĘKIYEOKĘPIEUPĘRIEULĘSIOSĜ-KIYEOKĘTHIEUTH",
    "đYEORINHIEUHēSIEUNGę-HIEUHĚKHIEUKHěIYEOKĚMIEUMĚPANSIOSĚSIOSěSANGKIYEOKĈUNGSEONG AĒ-EUēOēUĒEĒRAEA",
    "Ė-AėEĘOėIėUđEĒOē-EUĔOĔUĒUē-AĔEĕOĕUĔOĔUđFILLERđIĒ-AĔRAEAēEUēIēOĔ-IēUēYAĕ-OĕEĔEĕOĔOĔUđOĒ-EĔOēOĔ-Iē",
    "UēYAĕEĔEĕOĒEđSSANGARAEAđUĒ-AĔEēEO-EUēI-IēUēYEĕOđWAēEĒEēOĒIđYAē-OĔUĔYOēEĒEēOĔ-OĕUĕYAĒIē-UĒOē-AĕEĔ",
    "EOĔIĔOĔYAĖEĕEOĒUē-AĕEĔEĕOĔIĔOĔUĔYEĖOćLETTER AďEďRAEAēEĎCHIEUCHďIEUCĎEďOďUĎHIEUHĎIďEUNGĎKAPYEOUNM",
    "IEUMĖPHIEUPHėIEUPĖSSANGPIEUPďHIEUKHďIYEOKĔ-SIOSĎMIEUMē-PANSIOSĕIEUPĔSIOSĎNIEUNē-CIEUCĔHIEUHĔPANS",
    "IOSĔSIOSĔTIKEUTĎOďEĎPANSIOSďHIEUPHďIEUPē-CIEUCĔKIYEOKĔSIOSĘ-KIYEOKęTIKEUTĔTHIEUTHĕIKEUTĎRIEULē-H",
    "IEUHĔKIYEOKĚ-SIOSĔMIEUMĔPANSIOSĕHIEUPHĕIEUPę-SIOSĔSIOSĔTHIEUTHĕIKEUTĔYEORINHIEUHĎSIOSĒ-CIEUCēKIY",
    "EOKēNIEUNēPIEUPēTIKEUTďSANGCIEUCēHIEUHēIEUNGēKIYEOKēNIEUNēPIEUPēSIOSēTIKEUTĎTHIEUTHďIKEUTĎUĎWAĐE",
    "ďEĐOďIĎYAĐEďEĐOđRINHIEUHĐSIEUNGĖ-PANSIOSėSIOSďIďOĐ-IđYAēEďUĐ-IđYEēOćSINGLE DOT TONE MARKĄZHOU NU",
    "MERAL EIGHTđFIVEĒOURđNINEđONEđSEVENĒIXđTENĒHIRTYēREEĒWENTYēOăIFI ROHINGYA DIGIT EIGHTĖFIVEėOURĖN",
    "INEĖONEĖSEVENėIXĖTHREEėWOĖZEROĐLETTER AėBAėCAėDAĘDAėFAėGAėHAėJAėKAĘHAĘINNA WAĝYAėLAėMAėNAĘGAĘYAė",
    "PAėRAĘRAėSAĘHAėTAĘTAėVAėWAėYAėZAĐMARK NA KHONNAĕSAKINĐSIGN HARBAHAYĕTAHALAėNAėSSIĐVOWEL AĖEĖIĖOĖ",
    "UăUNOO LETTER AďBAďDAďGAďHAďIďKAďLAďMAďNAĐGAďPAďRAďSAďTAďUďWAďYAĈSIGN PAMUDPODĈVOWEL SIGN IēUĂPP",
    "Y PERSON RAISING ONE HANDĂRD DISKĂTCHING CHICKăRAN LETTER ALEPHďYNĎBETHĎDALETH-RESHĎGIMELĎHEĐTHĎ",
    "KAPHĎLAMEDHĎMEMĎNUNĎPEĎQOPHĎSADHEĐMEKHďHINĎTAWďETHĎWAWĎYODHĎZAYNćNUMBER FIVEĎONEđ HUNDREDĎTENďWE",
    "NTYāEADPHONEĄSTONEĉ GRAVEYARD SYMBOLăR-NO-EVIL MONKEYĄT DECORATIONĆHANDSĆWITH ARROWċRIBBONċTIP O",
    "N THE LEFTăVY AMPERSAND ORNAMENTćRROW SHAFT WIDTH ONEě HALFĜTHIRDĘTWO THIRDSćSTERISKĆBALLOT XćLA",
    "CK CURVED DOWNWARDS AND RIGHTWARDS ARROWēUPWARDS AND RIGHTWARDS ARROWČHEARTċ-FEATHERED NORTH EAS",
    "T ARROWĖRIGHTWARDS ARROWĖSOUTH EAST ARROWĆCHECK MARKĉVRON SNOWFLAKEćIRCLEČ WITH CIRCLE INSIDEĒST",
    "ROKE AND TWO DOTS ABOVEČD SALTIREćONCAVE-POINTED BLACK RIGHTWARDS ARROWĆDASHED TRIANGLE-HEADED R",
    "IGHTWARDS ARROWćIVISION SIGNćOLLAR SIGNĈUBLE COMMA QUOTATION MARK ORNAMENTčTURNED COMMA QUOTATIO",
    "N MARK ORNAMENTĈWNWARDS ARROW WITH EQUILATERAL ARROWHEADěLARGE EQUILATERAL ARROWHEADĆEIGHT POINT",
    "ED BLACK STARĔPINWHEEL STARĔRECTILINEAR BLACK STARČSPOKED ASTERISKČTEARDROP-SPOKED PROPELLER AST",
    "ERISKćQUALS SIGNćXCLAMATION MARK ORNAMENTėSYMBOLĆFIVE POINTED BLACK STARċSPOKED ASTERISKćOUR BAL",
    "LOON-SPOKED ASTERISKĆGREEK CROSSĆHEART EXCLAMATION MARK ORNAMENTćORIZONTAL FILLĆINTERROBANG ORNA",
    "MENTĆLARGE CIRCLEĈTIN CROSSćEFT-POINTING ANGLE BRACKET ORNAMENTĚQUOTATION MARK ORNAMENTĊWARDS AR",
    "ROW WITH EQUILATERAL ARROWHEADěLARGE EQUILATERAL ARROWHEADćIGATURE OPEN ET ORNAMENTćOW DOUBLE CO",
    "MMA QUOTATION MARK ORNAMENTĊSINGLE COMMA QUOTATION MARK ORNAMENTĉER RIGHT-SHADOWED WHITE RIGHTWA",
    "RDS ARROWĆMINUS SIGNćULTIPLICATION XĆNORTH EAST ARROWđPOINTING BUDĚVINE LEAFČWEST POINTING BUDĚV",
    "INE LEAFĆOPEN CENTRE CROSSćUTLINED BLACK STARćVAL WITH OVAL INSIDEĆPLUS SIGNĆRIGHT-POINTING ANGL",
    "E BRACKET ORNAMENTěQUOTATION MARK ORNAMENTċWARDS ARROWĖ WITH EQUILATERAL ARROWHEADĜLARGE EQUILAT",
    "ERAL ARROWHEADćOUND-TIPPED RIGHTWARDS ARROWĆSALTIREĈNS-SERIF INTERROBANG ORNAMENTćCRIPT LIGATURE",
    " ET ORNAMENTćINGLE COMMA QUOTATION MARK ORNAMENTčTURNED COMMA QUOTATION MARK ORNAMENTĈX POINTED ",
    "BLACK STARĊSPOKED ASTERISKćOUTH EAST ARROWđPOINTING BUDĚVINE LEAFČWEST POINTING BUDĚVINE LEAFćPA",
    "RKLEĆTEARDROP-SHANKED RIGHTWARDS ARROWĐPOKED ASTERISKĖPINWHEEL ASTERISKćRIANGLE-HEADED RIGHTWARD",
    "S ARROWćWELVE POINTED BLACK STARĕPINWHEEL STARĆUPPER RIGHT-SHADOWED WHITE RIGHTWARDS ARROWĈWARDS",
    " ARROW WITH EQUILATERAL ARROWHEADęLARGE EQUILATERAL ARROWHEADĆVERTICAL BARĆWEDGE-TAILED RIGHTWAR",
    "DS ARROWćHITE CIRCLEČDOWN-POINTING TRIANGLEČSQUAREćIDE-HEADED RIGHTWARDS ARROWĂBREW ACCENT ATNAH",
    " HAFUKHĎDARGAďEHIĎETNAHTAĎGERESHĔ MUQDAMđSHAYIMĎILUYĎMAHAPAKHďERKHAĔ KEFULAďUNAHĎOLEĎPASHTAĐZERĎ",
    "QADMAĐRNEY PARAĎREVIAĎSEGOLďHALSHELETĎTELISHA GEDOLAĖQETANAĐVIRďIPEHAĎYERAH BEN YOMOĐTIVĎZAQEF G",
    "ADOLĔQATANĐRQAďINORćLETTER ALEFĒ WITH MAPIQĘPATAHĘQAMATSĐTERNATIVE AYINĚPLUS SIGNďYINĎBETđ WITH ",
    "DAGESHėRAFEĎDALETē WITH DAGESHĎFINAL KAFė WITH DAGESHĔMEMĔNUNĔPEĖ WITH DAGESHĔTSADIĎGIMELē WITH ",
    "DAGESHĎHEĐ WITH MAPIQĐTĎKAFđ WITH DAGESHėRAFEĎLAMEDē WITH DAGESHĎMEMđ WITH DAGESHĎNUNđ WITH DAGE",
    "SHĎPEĐ WITH DAGESHĖRAFEĎQOFđ WITH DAGESHĎRESHĒ WITH DAGESHĎSAMEKHĔ WITH DAGESHďHINĒ WITH DAGESHĞ",
    " AND SHIN DOTĤIN DOTĘSHIN DOTęIN DOTĎTAVđ WITH DAGESHďETđ WITH DAGESHďSADIē WITH DAGESHĎVAVđ WIT",
    "H DAGESHėHOLAMĎWIDE ALEFēDALETēFINAL MEMēHEēKAFēLAMEDēRESHēTAVĎYODđ WITH DAGESHėHIRIQĎZAYINē WIT",
    "H DAGESHĈIGATURE ALEF LAMEDĐYIDDISH DOUBLE VAVğYODĘVAV YODĘYOD YOD PATAHćMARK LOWER DOTČMASORA C",
    "IRCLEČUPPER DOTćPOINT DAGESH OR MAPIQčHATAF PATAHēQAMATSēSEGOLĎIRIQĎOLAMĒ HASER FOR VAVčJUDEO-SP",
    "ANISH VARIKAčMETEGčPATAHčQAMATSē QATANĎUBUTSčRAFEčSEGOLĎHEVAďIN DOTĎIN DOTčTSEREĈUNCTUATION GERE",
    "SHĖSHAYIMēMAQAFēNUN HAFUKHAēPASEQēSOF PASUQćYOD TRIANGLEĂDGEHOGĂLICOPTERăLSCHREIBER PAUSE SYMBOL",
    "ăM SYMBOLĄET WITH WHITE CROSSĂNTAIGANA LETTER A-1Ĕ2Ĕ3ĔWOĒE-1Ĕ2Ĕ3Ĕ4Ĕ5Ĕ6ĒHA-1Ė0Ė1ĕ2ĕ3ĕ4ĕ5ĕ6ĕ7ĕ8ĕ9ē",
    "E-1ĕ2ĕ3ĕ4ĕ5ĕ6ĕ7ēI-1ĕ2ĕ3ĕ4ĕ5ĕ6ĕ7ēO-1ĕ2ĕ3ĕ4ĕ5ĕ6ĕ7ĕ8ēU-1ĕ2ĕ3ĒI-1Ĕ2Ĕ3Ĕ4ĒKA-1Ė0Ė1ĕ2ĕ3ĕ4ĕ5ĕ6ĕ7ĕ8ĕ9ĕKEē",
    "E-1ĕ2ĕ3ĕ4ĕ5ĕ6ēI-1ĕ2ĕ3ĕ4ĕ5ĕ6ĕ7ĕ8ēO-1ĕ2ĕ3ĕKIēU-1ĕ2ĕ3ĕ4ĕ5ĕ6ĕ7ĒMA-1ĕ2ĕ3ĕ4ĕ5ĕ6ĕ7ēE-1ĕ2ĕMAēI-1ĕ2ĕ3ĕ4ĕ5",
    "ĕ6ĕ7ēO-1ĕ2ĕ3ĕ4ĕ5ĕ6ēU-1ĕ2ĕ3ĕ4ĒN-MU-MO-1Ě2ēA-1ĕ2ĕ3ĕ4ĕ5ĕ6ĕ7ĕ8ĕ9ēE-1ĕ2ĕ3ĕ4ĕ5ĕ6ĕKOēI-1ĕ2ĕ3ĕ4ĕ5ĕ6ĕ7ĕTE",
    "ēO-1ĕ2ĕ3ĕ4ĕ5ēU-1ĕ2ĕ3ĒO-1Ĕ2Ĕ3ĒRA-1ĕ2ĕ3ĕ4ēE-1ĕ2ĕ3ĕ4ēI-1ĕ2ĕ3ĕ4ĕ5ĕ6ĕ7ēO-1ĕ2ĕ3ĕ4ĕ5ĕ6ēU-1ĕ2ĕ3ĕ4ĕ5ĕ6ĒSA",
    "-1ĕ2ĕ3ĕ4ĕ5ĕ6ĕ7ĕ8ēE-1ĕ2ĕ3ĕ4ĕ5ēI-1ĕ2ĕ3ĕ4ĕ5ĕ6ēO-1ĕ2ĕ3ĕ4ĕ5ĕ6ĕ7ēU-1ĕ2ĕ3ĕ4ĕ5ĕ6ĕ7ĕ8ĒTA-1ĕ2ĕ3ĕ4ēE-1ĕ2ĕ3ĕ",
    "4ĕ5ĕ6ĕ7ĕ8ĕ9ēI-1ĕ2ĕ3ĕ4ĕ5ĕ6ĕ7ēO-1ĕ2ĕ3ĕ4ĕ5ĕ6ĕRAēU-1ĕ2ĕ3ĕ4ĕTOĒU-1Ĕ2Ĕ3Ĕ4Ĕ5ĒWA-1ĕ2ĕ3ĕ4ĕ5ēE-1ĕ2ĕ3ĕ4ēI-1",
    "ĕ2ĕ3ĕ4ĕ5ēO-1ĕ2ĕ3ĕ4ĕ5ĕ6ĕ7ĒYA-1ĕ2ĕ3ĕ4ĕ5ĕYOēO-1ĕ2ĕ3ĕ4ĕ5ĕ6ēU-1ĕ2ĕ3ĕ4ĂRBăMITIAN CONJUGATE MATRIXĂXAGR",
    "AM FOR ABUNDANCEĎFTER COMPLETIONĎPPROACHčBEFORE COMPLETIONĎITING THROUGHĎREAKTHROUGHčCOMING TO M",
    "EETďNFLICTĐTEMPLATIONčDARKENING OF THE LIGHTĎECREASEďLIVERANCEďVELOPMENTĎIFFICULTY AT THE BEGINN",
    "INGďSPERSIONĎURATIONčENTHUSIASMčFELLOWSHIPĎOLLOWINGčGATHERING TOGETHERĎRACEďEAT POSSESSIONĕWERĔR",
    "EPONDERANCEēTAMINGčHOLDING TOGETHERčINCREASEďFLUENCEďNER TRUTHĐOCENCEčLIMITATIONčMODESTYďUTH COR",
    "NERSčOBSTRUCTIONĎPPOSITIONĐRESSIONčPEACEĎROGRESSĎUSHING UPWARDčRETREATĐURNďVOLUTIONčSMALL PREPON",
    "DERANCEēTAMINGĎPLITTING APARTĎTANDSTILLčTHE ABYSMAL WATERĒRMYēOUSING THUNDERđCAULDRONĒLINGING FI",
    "REĒREATIVE HEAVENđFAMILYđGENTLE WINDđJOYOUS LAKEđKEEPING STILL MOUNTAINđMARRYING MAIDENđRECEPTIV",
    "E EARTHđWANDERERĒELLĎREADINGčWAITINGĎORK ON THE DECAYEDčYOUTHFUL FOLLYāIBISCUSĂGH BRIGHTNESS SYM",
    "BOLąOCTET PRESETąVOLTAGE SIGNĄ-HEELED SHOEąSPEED TRAINĐ WITH BULLET NOSEĂKING BOOTĂNDU TEMPLEĂPP",
    "OPOTAMUSĂRAGANA DIGRAPH YORIĉITERATION MARKĉLETTER AđRCHAIC WUĘYEĐBAđEđIđOđUĐDAđEđIđOđUĐEĐGAđEđI",
    "đOđUĐHAđEđIđOđUĐIĐKAđEđIđOđUĐMAđEđIđOđUĐNđAđEđIđOđUĐOĐPAđEđIđOđUĐRAđEđIđOđUĐSAđEđIđMALL AĖEĖIĖKA",
    "ėEĖOĖTUĖUĖWAėEėIėOĖYAėOėUđOđUĐTAđEđIđOđUĐUĐVUĐWAđEđIđOĐYAđOđUĐZAđEđIđOđUĉVOICED ITERATION MARKĂS",
    "TORIC SITEāOCHOĂLEăLOW QUILT SQUARE ORNAMENTĜ IN BLACK SQUAREĂMOTHETICĂNEY POTąBEEĂOKĂPĂRIZONTAL",
    " BARČLACK HEXAGONđOCTAGONċELLIPSISċLINE EXTENSIONċMALE WITH STROKE SIGNċONE EIGHTH BLOCK-1358Ĝ2Ĝ",
    "3Ĝ4Ĝ5Ĝ6Ĝ7ċSCAN LINE-1ĕ3ĕ7ĕ9ċTAB KEYĎULATIONĕ SETĖWITH JUSTIFICATIONČRAFFIC LIGHTăSEą FACEĆRACING",
    "ĂSPITALĂT BEVERAGEĄDOGĄPEPPERĄSPRINGSăELĂURGLASSĉ WITH FLOWING SANDăSEą BUILDINGĎSĆWITH GARDENāR",
    "YVNIA SIGNāTĂJĂSāUGGING FACEĂNDRED POINTS SYMBOLĂSHED FACEĂTāYGIEAĂPHENĆ BULLETćWITH DIAERESISĆ-",
    "MINUSĆATION POINTăODIASTOLEĂSTERESIS SYMBOLĀI LOVE YOU HAND SIGNāCE CREAMąUBEĄHOCKEY STICK AND P",
    "UCKĄSKATEāDENTICAL TOČ AND SLANTED PARALLELĊWITH DOT ABOVEĆFICATION CARDăOGRAPHIC ANNOTATION BOT",
    "TOM MARKėEARTH MARKėFIRST MARKĘOUR MARKěTH MARKėHEAVEN MARKėLINKING MARKėMAN MARKĘIDDLE MARKėONE",
    " MARKėREVERSE MARKėSECOND MARKėTHIRD MARKęREE MARKĘOP MARKĘWO MARKČCLOSING MARKčOMMAČDEPARTING T",
    "ONE MARKĎSCRIPTION CHARACTER ABOVE TO BELOWīMIDDLE AND BELOWĢFULL SURROUNDĢLEFT TO MIDDLE AND RI",
    "GHTĪRIGHTĢOVERLAIDĢSURROUND FROM ABOVEİBELOWİLEFTıOWER LEFTİUPPER LEFTĶRIGHTČENTERING TONE MARKČ",
    "FULL STOPČHALF FILL SPACEČITERATION MARKČLEVEL TONE MARKČNUMBER ZEROČRISING TONE MARKČSPACEČTALL",
    "Y MARK FIVEĘOURėONEėTHREEĘWOčELEGRAPH LINE FEED SEPARATOR SYMBOLĖSYMBOL FOR APRILĢUGUSTġDAY EIGH",
    "TĪEENĦLEVENĥFIFTEENħVEĦOURĩTEENĥNINEĩTEENĥONEĥSEVENĪTEENĦIXĨTEENĥTENĦHIRTEENĪYī-ONEħREEĦWELVEĨNT",
    "Yī-EIGHTĬFIVEĭOURĬNINEĬONEĬSEVENĭIXĬTHREEĭWOħOĢECEMBERġFEBRUARYġHOUR EIGHTīEENħLEVENĦFIFTEENĨVEħ",
    "OURĪTEENĦNINEĪTEENĦONEĦSEVENīTEENħIXĩTEENĦTENħHIRTEENĨREEħWELVEĩNTYĬ-FOURĭONEĭTHREEĮWOĨOĦZEROġJA",
    "NUARYĢULYģNEġMARCHģYġNOVEMBERġOCTOBERġSEPTEMBERČVARIATION INDICATORāMAGE OFĈ OR APPROXIMATELY EQ",
    "UAL TOĂPăERIAL ARAMAIC LETTER ALEPHęYINĘBETHĘDALETHĘGIMELĘHEĚTHĘKAPHĘLAMEDHĘMEMĘNUNĘPEĘQOPHĘRESH",
    "ĘSADHEĚMEKHęHINĘTAWęETHĘWAWĘYODHĘZAYINđNUMBER ONEě HUNDREDĜTHOUSANDĘTENě THOUSANDęHREEęWENTYĚOđS",
    "ECTION SIGNāNBOX TRAYĂCOMING ENVELOPEąPLETE INFINITYăREASE FONT SIZE SYMBOLĈS ASąMENTĂDăEXą POIN",
    "TING AT THE VIEWERăIAN RUPEE SIGNĄC SIYAQ ALTERNATE LAKH MARKČFRACTION ONE HALFęQUARTERĕTHREE QU",
    "ARTERSČLAKH MARKČNUMBER ALTERNATE ONEĝTEN THOUSANDĞWOēEIGHTĘ HUNDREDęTHOUSANDĘYę THOUSANDēFIFTYĘ",
    " THOUSANDĕVEė HUNDREDĘTHOUSANDĔORTYĘ THOUSANDĕURė HUNDREDĘTHOUSANDēKARORĘANēLAKHėANēNINEė HUNDRE",
    "DĘTHOUSANDėTYę THOUSANDēONEĖ HUNDREDėTHOUSANDēPREFIXED EIGHTĜFIVEĝOURĜNINEĜONEĜSEVENĝIXĜTHREEĝWO",
    "ēSEVENĘ HUNDREDęTHOUSANDĘTYĚ THOUSANDĔIXĖ HUNDREDėTHOUSANDĖTYĘ THOUSANDēTENĖ THOUSANDĔHIRTYę THO",
    "USANDĕREEĘ HUNDREDęTHOUSANDĔWENTYę THOUSANDĕOĖ HUNDREDėTHOUSANDČPLACEHOLDERČRUPEE MARKĂFINITYĈ N",
    "EGATED WITH VERTICAL BARăORMATION DESK PERSONČSEPARATOR FOURĖONEĖTHREEėWOčOURCEĂHIBIT ARABIC FOR",
    "M SHAPINGĈSYMMETRIC SWAPPINGĂPUT SYMBOL FOR LATIN CAPITAL LETTERSėLETTERSėSMALL LETTERSđNUMBERSđ",
    "SYMBOLSĂSCRIPTIONAL PAHLAVI LETTER ALEPHĝBETHĝDALETHĝGIMELĝHEğTHĝKAPHĝLAMEDHĝMEM-QOPHĝNUNĝPEĝSAD",
    "HEğMEKHĞHINĝTAWĞETHĝWAW-AYIN-RESHĝYODHĝZAYINĖNUMBER FOURĝONEĠ HUNDREDġTHOUSANDĝTENĞHREEĞWENTYğOĐ",
    "RTHIAN LETTER ALEPHğYINĞBETHĞDALETHĞGIMELĞHEĠTHĞKAPHĞLAMEDHĞMEMĞNUNĞPEĞQOPHĞRESHĞSADHEĠMEKHğHINĞ",
    "TAWğETHĞWAWĞYODHĞZAYINėNUMBER FOURĞONEġ HUNDREDĢTHOUSANDĞTENğHREEğWENTYĠOăERTION SYMBOLĂTEGRALĈ ",
    "AROUND A POINT OPERATORĊVERAGE WITH SLASHĉEXTENSIONĉWITH DOUBLE STROKEĎINTERSECTIONĎLEFTWARDS AR",
    "ROW WITH HOOKĎOVERBARĎTIMES SIGNĎUNDERBARĐIONĄRCALATEąIOR PRODUCTąLINEAR ANNOTATION ANCHORėSEPAR",
    "ATORėTERMINATORĆOCKED FEMALE AND MALE SIGNąROBANGąSECTIONČ ABOVE BAR ABOVE UNIONēUNIONčBESIDE AN",
    "D JOINED WITH INTERSECTIONčWITH DOTĒLOGICAL ANDĒOVERBARĂVERSE BULLETĈCHECK MARKčER BOARD FILLĈDO",
    "WNWARDS ARROW WITH TIP LEFTWARDSĈMEDIUM SHADEĈWHITE CIRCLEąTED EXCLAMATION MARKĉINTERROBANGĉLAZY",
    " SĊOW KAVYKAē WITH KAVYKA ABOVEĉOHM SIGNĉPENTAGRAMĉQUESTION MARKĉUNDERTIEăISIBLE PLUSĊSEPARATORĊ",
    "TIMESāZAKAYA LANTERNĀJACK-O-LANTERNĂPANESE BANK SYMBOLĉCASTLEĉDOLLSĉGOBLINĉINDUSTRIAL STANDARD S",
    "YMBOLĉOGREĉPOST OFFICEĉSYMBOL FOR BEGINNERĂRĂVANESE CONSONANT SIGN CAKRAĘKERETĘPENGKALĉDIGIT EIG",
    "HTďFIVEĐOURďNINEďONEďSEVENĐIXďTHREEĐWOďZEROĉLEFT RERENGGANċTTER AđIĐBAĒ MURDAĐCAĒ MURDAĐDAĒ MAHA",
    "PRANAđDAē MAHAPRANAĐEĐGAĒ MURDAĐHAĐIđ KAWIđIĐJAĒ MAHAPRANAĐKAĒ MURDAēSASAKĐLAĐMAĐNAĒ MURDAđGAē L",
    "ELETę RASWADIđYAē MURDAĐOĐPAĒ CEREKēMURDAĐRAĒ AGUNGĐSAĒ MAHAPRANAĔURDAĐTAĒ MURDAđTAē MAHAPRANAĐU",
    "ĐWAĐYAĉPADA ADEGĒ ADEGďNDAPĎISEN-ISENĎLINGSAďUHURĐNGSIĎMADYAĎPANGKATďISELEHĎTIRTA TUMETESĎWINDUċ",
    "NGKONčRANGKEPĉRIGHT RERENGGANĉSIGN CECAKē TELUĎLAYARĎPANYANGGAĎWIGNYANĉTURNED PADA PISELEHĉVOWEL",
    " SIGN DIRGA MUREĔPEPETĔSUKUĘ MENDUTĔTALINGĖRUNGĕOLONGĔWULUĘ MELIKāEANSāIGSAW PUZZLE PIECEāOINĂYS",
    "TICKāUGGLINGĂNOĂPITERĀKAABAĂITHI ABBREVIATION SIGNćDANDAĈOUBLE DANDAĎSECTION MARKćENUMERATION SI",
    "GNćLETTER AďAďIďUĎBAďHAĎCAďHAĎDAďDAĐDHAĐHAďHAĎEĎGAďHAĎHAĎIďIĎJAďHAĎKAďHAĎLAĎMAĎNAďGAďNAďYAĎOĎPAď",
    "HAĎRAďHAĎSAďHAďSAĎTAďHAďTAĐHAĎUďUĎVAĎYAćNUMBER SIGNĒ ABOVEćSECTION MARKĈIGN ANUSVARAČCANDRABINDU",
    "ČNUKTAČVIRAMAĎSARGAćVOWEL SIGN AAēIēUĒEĒIēIĒOĒUēUĒVOCALIC RĂNGAROOĄXI RADICAL AGAINĐNDĐRRIVEĒOWĐ",
    "XEďBADGERđMBOOĐEANĐIGđRDđTTERĐLACKđOODđUEĐOATđDYđLT OF CLOTHđNEđWĐRANCHđISTLEđUSHďCARTđULDRONđVE",
    "ĐHILDĐITYĐLANĒWđIFFđOTHESĐOLORđMPAREđRPSEđVERđWďDEATHđERĐIPPERđSHĒTINGUISHđVINATIONĐO NOTđGđORđT",
    "ĒTED CLIFFĖTENTđUBLE XđWN BOXĐRAGONđUMđYďEARĒTHđTĐIGHTĐMBROIDERYĐNCLOSUREđTERĐVENēINGĐYEďFACEđNG",
    "đTHERĐEATHERĐIELDđGHTđREđSHĐLUTEđYĐOOTĐRAGRANTđOGĐURďGATEĐHOSTĐOđ SLOWLYđLDĐRAINĒSSďHAIRđLBERDĒF",
    " TREE TRUNKđNDĐEADĒRTđMPĐIDING ENCLOSUREĐOOKđRNĒSEďICEĐNCHđSECTďJADEđRďKNIFEďLACKđMEĐEAFĒTHERđEK",
    "đGSĐIDđFEđNEĐONGē STRIDEďMANĐEATđLONĐILLETđNISTERĐOONđRNINGĒTARđUNDēTAINĒTHďNETĐOSEđTďOLDĐNEĒSEL",
    "FĐPEN BOXđPOSEďPIGĐLOWĐOWERĐRIVATEđOFOUNDďRAINđPđTĐEDĐICEđGHT OPEN BOXđVERĐOOFĐUNďSACRIFICIAL WI",
    "NEđLTđYĐCHOLARđRIPTĐEALđCONDđEđLFĐHEEPĒLLđOOTĒRT TAILED BIRDĖHREADĐICKNESSđLKĐKINĐLASHĒVEđICEĐMA",
    "LLĐNOUTĐOUNDĐPEARĒECHđIRITđOONđROUTĐQUAREĐTANDđEAMĒPđONEĒPēPINGĐUNĐWEETďTABLEđLLđNNED LEATHERĐEN",
    "ĐIGERđLEĐONGUEđOTHĐRACKđEEđIPODĐURBANĒTLEĐWOĒ HANDSďUSEďVALLEYĐILLAGEďWALKē ENCLOSUREđTERĐEAPONđ",
    "STĐHEATđITEĐINDĒEĐOMANđRKĐRAPđONGďYELLOWăNADA AI LENGTH MARKĈDIGIT EIGHTĎFIVEďOURĎNINEĎONEĎSEVEN",
    "ďIXĎTHREEďWOĎZEROĈLENGTH MARKĊTTER AĐAĐIĐUďBAĐHAďCAĐHAďDAĐDAđHAĐHAďEĐEďFAďGAĐHAďHAďIĐIďJAĐHAďKAĐ",
    "HAďLAĐLAđLAďMAďNAđKAARA POLLUĐGAĐNAĐYAďOĐOďPAĐHAďRAĐRAďSAĐHAĐSAďTAĐHAĐTAđHAďUĐUďVAĐOCALIC LĘLėRĘ",
    "RďYAĈSIGN ANUSVARAĎVAGRAHAčCANDRABINDUčJIHVAMULIYAčNUKTAčSIDDHAMĎPACING CANDRABINDUčUPADHMANIYAč",
    "VIRAMAďSARGAĈVOWEL SIGN AAĔIĔUēEĔEēIĔIēOĔOēUĔUēVOCALIC LĜLěRĜRĂTAKANA DIGRAPH KOTOĉITERATION MAR",
    "KĉLETTER AđRCHAIC EĘWUĘYEęIĐBAđEđIđOđUĐDAđEđIđOđUĐEĐGAđEđIđOđUĐHAđEđIđOđUĐIĐKAđEđIđOđUĐMAđEđIĒNN",
    "AN NASALIZED TONE-1Ħ2Ħ3Ħ4Ħ5Ħ7Ħ8ėTONE-2Ĝ3Ĝ4Ĝ5Ĝ7Ĝ8đOđUĐNđAđEđIđOđUĐOĐPAđEđIđOđUĐRAđEđIđOđUĐSAđEđIđ",
    "MALL AĖEĖHAėEėIėOėUĖIĖKAėEėUĖMUĖNėUĖOĖRAėEėIėOėUĖSIėUĖTOėUĖUĖWAėEėIėOĖYAėOėUđOđUĐTAđEđIđOđUĐUĐVA",
    "đEđIđOđUĐWAđEđIđOĐYAđOđUĐZAđEđIđOđUĉMIDDLE DOTĉVOICED ITERATION MARKĈ-HIRAGANA DOUBLE HYPHENĒPRO",
    "LONGED SOUND MARKĒSEMI-VOICED SOUND MARKĒVOICED SOUND MARKĂYAH LI DIGIT EIGHTďFIVEĐOURďNINEďONEď",
    "SEVENĐIXďTHREEĐWOďZEROĉLETTER AĐBAĐCAĐDAĐGAĐHAđTAĐIĐKAđHAĐLAĐMAĐNAđGAđYAĐOEđOĐPAđHAĐRAĐSAđHAĐTAđ",
    "HAĐVAĐWAĐYAĐZAĉSIGN CWIĎSHYAĉTONE CALYAē PLOPHUĎPLOPHUĉVOWEL EĐEďOďUĐEāELVIN SIGNĂYăBOARDĈ AND M",
    "OUSEăCAP TENāHAROSHTHI DIGIT FOURđONEđTHREEĒWOċFRACTION ONE HALFċLETTER AĒBAēHAĒCAēHAĒDAēDAĔHAēH",
    "AĒGAēHAĒHAĒJAĒKAēHAēKAĒLAĒMAĒNAēNAēYAĒPAēHAĒRAĒSAēHAēSAĒTAēHAēTAĔHAĔTAĕHAĒVAēHAĒYAĒZAċNUMBER ONE",
    " HUNDREDĖTHOUSANDĒTENēWENTYċPUNCTUATION CIRCLEĘRESCENT BARėDANDAĘOTęUBLE DANDAėLINESĘOTUSėMANGAL",
    "AMėSMALL CIRCLEċSIGN ANUSVARAĐBAR ABOVEĐCAUDAĐDOT BELOWĒUBLE RING BELOWĐVISARGAċVIRAMAČOWEL LENG",
    "TH MARKđSIGN EĖIĖOĖUĖVOCALIC RĂITAN SMALL SCRIPT CHARACTER-18B00Ģ1Ģ2Ģ3Ģ4Ģ5Ģ6Ģ7Ģ8Ģ9ĢAĢBĢCĢDĢEĢFġ1",
    "0Ģ1Ģ2Ģ3Ģ4Ģ5Ģ6Ģ7Ģ8Ģ9ĢAĢBĢCĢDĢEĢFġ20Ģ1Ģ2Ģ3Ģ4Ģ5Ģ6Ģ7Ģ8Ģ9ĢAĢBĢCĢDĢEĢFġ30Ģ1Ģ2Ģ3Ģ4Ģ5Ģ6Ģ7Ģ8Ģ9ĢAĢBĢCĢDĢEĢ",
    "Fġ40Ģ1Ģ2Ģ3Ģ4Ģ5Ģ6Ģ7Ģ8Ģ9ĢAĢBĢCĢDĢEĢFġ50Ģ1Ģ2Ģ3Ģ4Ģ5Ģ6Ģ7Ģ8Ģ9ĢAĢBĢCĢDĢEĢFġ60Ģ1Ģ2Ģ3Ģ4Ģ5Ģ6Ģ7Ģ8Ģ9ĢAĢBĢCĢD",
    "ĢEĢFġ70Ģ1Ģ2Ģ3Ģ4Ģ5Ģ6Ģ7Ģ8Ģ9ĢAĢBĢCĢDĢEĢFġ80Ģ1Ģ2Ģ3Ģ4Ģ5Ģ6Ģ7Ģ8Ģ9ĢAĢBĢCĢDĢEĢFġ90Ģ1Ģ2Ģ3Ģ4Ģ5Ģ6Ģ7Ģ8Ģ9ĢAĢBĢ",
    "CĢDĢEĢFġA0Ģ1Ģ2Ģ3Ģ4Ģ5Ģ6Ģ7Ģ8Ģ9ĢAĢBĢCĢDĢEĢFġB0Ģ1Ģ2Ģ3Ģ4Ģ5Ģ6Ģ7Ģ8Ģ9ĢAĢBĢCĢDĢEĢFġC0Ģ1Ģ2Ģ3Ģ4Ģ5Ģ6Ģ7Ģ8Ģ9ĢA",
    "ĢBĢCĢDĢEĢFġD0Ģ1Ģ2Ģ3Ģ4Ģ5Ģ6Ģ7Ģ8Ģ9ĢAĢBĢCĢDĢEĢFġE0Ģ1Ģ2Ģ3Ģ4Ģ5Ģ6Ģ7Ģ8Ģ9ĢAĢBĢCĢDĢEĢFġF0Ģ1Ģ2Ģ3Ģ4Ģ5Ģ6Ģ7Ģ8Ģ",
    "9ĢAĢBĢCĢDĢEĢFĠC00Ģ1Ģ2Ģ3Ģ4Ģ5Ģ6Ģ7Ģ8Ģ9ĢAĢBĢCĢDĢEĢFġ10Ģ1Ģ2Ģ3Ģ4Ģ5Ģ6Ģ7Ģ8Ģ9ĢAĢBĢCĢDĢEĢFġ20Ģ1Ģ2Ģ3Ģ4Ģ5Ģ6Ģ",
    "7Ģ8Ģ9ĢAĢBĢCĢDĢEĢFġ30Ģ1Ģ2Ģ3Ģ4Ģ5Ģ6Ģ7Ģ8Ģ9ĢAĢBĢCĢDĢEĢFġ40Ģ1Ģ2Ģ3Ģ4Ģ5Ģ6Ģ7Ģ8Ģ9ĢAĢBĢCĢDĢEĢFġ50Ģ1Ģ2Ģ3Ģ4Ģ5",
    "Ģ6Ģ7Ģ8Ģ9ĢAĢBĢCĢDĢEĢFġ60Ģ1Ģ2Ģ3Ģ4Ģ5Ģ6Ģ7Ģ8Ģ9ĢAĢBĢCĢDĢEĢFġ70Ģ1Ģ2Ģ3Ģ4Ģ5Ģ6Ģ7Ģ8Ģ9ĢAĢBĢCĢDĢEĢFġ80Ģ1Ģ2Ģ3Ģ",
    "4Ģ5Ģ6Ģ7Ģ8Ģ9ĢAĢBĢCĢDĢEĢFġ90Ģ1Ģ2Ģ3Ģ4Ģ5Ģ6Ģ7Ģ8Ģ9ĢAĢBĢCĢDĢEĢFġA0Ģ1Ģ2Ģ3Ģ4Ģ5Ģ6Ģ7Ģ8Ģ9ĢAĢBĢCĢDĢEĢFġB0Ģ1Ģ2",
    "Ģ3Ģ4Ģ5Ģ6Ģ7Ģ8Ģ9ĢAĢBĢCĢDĢEĢFġC0Ģ1Ģ2Ģ3Ģ4Ģ5Ģ6Ģ7Ģ8Ģ9ĢAĢBĢCĢDĢEĢFġD0Ģ1Ģ2Ģ3Ģ4Ģ5ĔFILLERĂMER CURRENCY SYM",
    "BOL RIELĆDIGIT EIGHTČFIVEčOURČNINEČONEČSEVENčIXČTHREEčWOČZEROĆINDEPENDENT VOWEL LYĚYĘQAAĚIĚQĚUęE",
    "ęIĚIęOO TYPE ONEġTWOęUĚKĚUěVĘRYĚYĆLETTER BAčCAĎHAďOĎOčDAĎOčHAčKAĎHAďOĎOčLAĎOčMOčNGOĎNOĎOĎYOčPHAď",
    "OĎOčQAčROčSAĎHAĎSOčTAĎHAďOĎOĎTHAĐOčVOčYOĆSIGN AHSDAČTTHACANČVAKRAHASANYAċBANTOCčRIYOOSANčTHAMASA",
    "TČEYYALċCAMNUC PII KUUHČOENGċKAKABATČHANČOOMUUTċLEK TOOċMUUSIKATOANċNIKAHITċPHNAEK MUANċREAHMUKČ",
    "OBATċSAMYOK SANNYAċTOANDAKHIATČRIISAPċVIRIAMċYUUKALEAPINTUćYMBOL BEI KOETđROCĎUON KOETĒROCčDAP K",
    "OETđROCĐ-BEI KOETĕROCĒUON KOETĖROCđMUOY KOETĖROCđPII KOETĕROCĒRAM KOETĖROCčLEK ATTAK BEIĘUONėMUO",
    "YėPIIĘRAMě-BEIĝUONĜMUOYĜPIIėSONčMUOY KOETĒROCčPATHAMASATĎII KOETđROCĎRAM KOETĒROCđ-BEI KOETĖROCē",
    "UON KOETėROCĒMUOY KOETėROCĒPII KOETĖROCčTUTEYASATĆVOWEL INHERENT AAĖQČSIGN AAĒEĒIĒUđEđIĒEĒIđOEĒO",
    "đUĒAĒUđYĒAĒYĂOJKI ABBREVIATION SIGNćDANDAĈOUBLE DANDAĎSECTION MARKćLETTER AďAďIďUĎBAďBAďHAĎCAďHA",
    "ĎDAďDAĐDAĐHAďHAĎEĎGAďGAďHAĎHAĎIĎJAďJAĎKAďHAĎLAďLAĎMAĎNAďGAďNAďYAĎOĎPAďHAĎRAĎSAĎTAďHAďTAĐHAĎUĎVAĎ",
    "YAćSECTION MARKĈIGN ANUSVARAČNUKTAČSHADDAčUKUNČVIRAMAćVOWEL SIGN AAēIēUĒEĒIēIĒOĒUćWORD SEPARATOR",
    "ĂUDAWADI DIGIT EIGHTĐFIVEđOURĐNINEĐONEĐSEVENđIXĐTHREEđWOĐZEROĊLETTER AĒAĒIĒUđBAĒBAĒHAđCAĒHAđDAĒD",
    "AēDAēHAĒHAđEđGAĒGAĒHAđHAđIĒIđJAĒHAĒJAđKAĒHAđLAđMAđNAĒGAĒNAĒYAđOđPAĒHAđRAĒRAđSAĒHAđTAĒHAĒTAēHAđUĒ",
    "UđVAđYAĊSIGN ANUSVARAďNUKTAďVIRAMAĊVOWEL SIGN AAĖIĖUĕEĕIĖIĕOĕUĖUāIMONOĂP SIGNĂSSĄ MARKĄING CAT F",
    "ACE WITH CLOSED EYESĈFACEČ WITH CLOSED EYESĒSMILING EYESĂTEĂWIFRUITāNEELING PERSONĂOTāOALAĂREAN ",
    "STANDARD SYMBOLāRONOSĀL B BAR SYMBOLāAB COATăELĂCROSSE STICK AND BALLĂDDERăY BEETLEĂNGUAGE TAGĂO",
    " CANCELLATION MARKĄDIGIT EIGHTĊFIVEċOURĊNINEĊONEĊSEVENċIXĊTHREEċWOĊZEROĄELLIPSISĄHO MOćNOĄKO LAĄ",
    "LETTER BOċCOċDOċFO FAYďONĎSUNGĎTAMċHO SUNGĎTAMċKHMU GOĐNYOčO SUNGďTAMČOċLOč LINGďOOTċMOċNGOČOČYO",
    "ċOċPALI BHAĐCHAĐDDAĒHAđHAĐGHAĐJHAĐLLAĐNNAđYAĐTTAĒHAČHO SUNGďTAMČOċROċSANSKRIT SHAĕSAČO SUNGĎTAMċ",
    "THO SUNGďTAMČOċWOċYOĄNIGGAHITAĄSEMIVOWEL SIGN LOēNYOąIGN PALI VIRAMAĄTONE MAI CATAWAčEKčTHOĎIĄVO",
    "WEL SIGN AĐAĐIĐMĐYďEĐIďIĐIďMAI KANĔONďOďUĐUďYĐYĂRGE BLUE CIRCLEċDIAMONDċSQUAREćROWN CIRCLEČSQUAR",
    "EĆCIRCLEĆDOWN TACKĆGREEN CIRCLEČSQUAREĆLEFT TRIANGLE OPERATORĆONE DOT OVER TWO DOTS PUNCTUATIONĊ",
    "RING OVER TWO RINGS PUNCTUATIONćRANGE CIRCLEčDIAMONDčSQUAREĆPURPLE CIRCLEčSQUAREĆRED CIRCLEĊSQUA",
    "REĆTRIPLE VERTICAL BAR OPERATORćWO DOTS OVER ONE DOT PUNCTUATIONĊRINGS OVER ONE RING PUNCTUATION",
    "ĆUP TACKĆYELLOW CIRCLEčSQUAREąR THANċ OR EQUAL TOăI SIGNĂST QUARTER MOONđ SYMBOLĒWITH FACEĂTIN C",
    "APITAL LETTER AĖ WITH ACUTEĜBREVEġ AND ACUTEĦDOT BELOWĦGRAVEĦHOOK ABOVEĦTILDEĜCARONĝIRCUMFLEXĦ A",
    "ND ACUTEīDOT BELOWīGRAVEīHOOK ABOVEīTILDEĜDIAERESISĥ AND MACRONĝOT ABOVEĥ AND MACRONĠBELOWĞUBLE ",
    "GRAVEĜGRAVEĜHOOK ABOVEĜINVERTED BREVEĜMACRONĜOGONEKĜRING ABOVEĦ AND ACUTEġBELOWĜSTROKEĜTILDEĖAĖE",
    "ė WITH ACUTEĝMACRONĖFRICAN DĖLPHAĖNGLICANA WĖOĖUĖVė WITH HORIZONTAL BARĖYĕBĖ WITH DOT ABOVEĠBELO",
    "WĜFLOURISHĜHOOKĜLINE BELOWĜSTROKEĜTOPBARĖETAĖROKEN LĕCĖ WITH ACUTEĜBARĜCARONĝEDILLAģ AND ACUTEĝI",
    "RCUMFLEXĜDOT ABOVEĜHOOKĜPALATAL HOOKĜSTROKEĖHIĖLOSED INSULAR GĖONĖUATRILLOĞ WITH COMMAĕDĖ WITH C",
    "ARONĝEDILLAĝIRCUMFLEX BELOWĜDOT ABOVEĠBELOWĜHOOKĜLINE BELOWĜSHORT STROKE OVERLAYĝMALL LETTER ZĪ ",
    "WITH CARONĝTROKEĜTOPBARĖZė WITH CARONĕEĖ WITH ACUTEĜBREVEĜCARONĝEDILLAģ AND BREVEĝIRCUMFLEXĦ AND",
    " ACUTEīDOT BELOWīGRAVEīHOOK ABOVEīTILDEħBELOWĜDIAERESISĝOT ABOVEĠBELOWĞUBLE GRAVEĜGRAVEĜHOOK ABO",
    "VEĜINVERTED BREVEĜMACRONĢ AND ACUTEħGRAVEĜOGONEKĜSTROKEĜTILDEġ BELOWĖGYPTOLOGICAL AINĤLEFĖNGĖSHĖ",
    "TėHĖZHĘ REVERSEDęWITH CARONĕFĖ WITH DOT ABOVEĜHOOKĜSTROKEĕGĖ WITH ACUTEĜBREVEĜCARONĝEDILLAĝIRCUM",
    "FLEXĜDOT ABOVEĜHOOKĜMACRONĜOBLIQUE STROKEĜSTROKEĖAMMAĖHAĖLOTTAL AĝIĝSTOPĝUĕHĖ WITH BREVE BELOWĜC",
    "ARONĝEDILLAĝIRCUMFLEXĜDESCENDERĝIAERESISĝOT ABOVEĠBELOWĜHOOKĜSTROKEĖALF HĖENGĖWAIRĕIĖ WITH ACUTE",
    "ĜBREVEĜCARONĝIRCUMFLEXĜDIAERESISĥ AND ACUTEĝOT ABOVEĠBELOWĞUBLE GRAVEĜGRAVEĜHOOK ABOVEĜINVERTED ",
    "BREVEĜMACRONĜOGONEKĜSTROKEĜTILDEġ BELOWĖNSULAR DĝFĝGĝRĝSĝTĖOTAĖSĕJĖ WITH CIRCUMFLEXĝROSSED-TAILĜ",
    "STROKEĕKĖ WITH ACUTEĜCARONĝEDILLAĜDESCENDERĝIAGONAL STROKEĝOT BELOWĜHOOKĜLINE BELOWĜOBLIQUE STRO",
    "KEĜSTROKEĢ AND DIAGONAL STROKEĕLĖ WITH ACUTEĜBARĝELTĜCARONĝEDILLAĝIRCUMFLEX BELOWĜDOT BELOWĥ AND",
    " MACRONĞUBLE BARĜHIGH STROKEĜLINE BELOWĜMIDDLE DOTģTILDEĜSMALL LETTER JĝTROKEĖJĕMĖ WITH ACUTEĜDO",
    "T ABOVEĠBELOWĜHOOKĖIDDLE SCOTS Sě-WELSH LLĢVĕNĖ WITH ACUTEĜCARONĝEDILLAĝIRCUMFLEX BELOWĜDESCENDE",
    "RĝOT ABOVEĠBELOWĜGRAVEĜLEFT HOOKĝINE BELOWĝONG RIGHT LEGĜOBLIQUE STROKEĜSMALL LETTER JĜTILDEĖJĕO",
    "Ė WITH ACUTEĜBREVEĜCARONĝIRCUMFLEXĦ AND ACUTEīDOT BELOWīGRAVEīHOOK ABOVEīTILDEĜDIAERESISĥ AND MA",
    "CRONĝOT ABOVEĥ AND MACRONĠBELOWĞUBLE ACUTEģGRAVEĜGRAVEĜHOOK ABOVEĞRNĠ AND ACUTEĥDOT BELOWĥGRAVEĥ",
    "HOOK ABOVEĥTILDEĜINVERTED BREVEĜLONG STROKE OVERLAYĞOPĜMACRONĢ AND ACUTEħGRAVEĝIDDLE TILDEĜOGONE",
    "KĢ AND MACRONĜSTROKEĢ AND ACUTEĜTILDEġ AND ACUTEĦDIAERESISĦMACRONĖIĖLD POLISH OĖMEGAĖOĖPEN EĚOĖU",
    "ĕPĖ WITH ACUTEĜDOT ABOVEĜFLOURISHĜHOOKĜSQUIRREL TAILĝTROKEĢ THROUGH DESCENDERĕQĖ WITH DIAGONAL S",
    "TROKEĜSTROKE THROUGH DESCENDERĕRĖ ROTUNDAėWITH ACUTEĜCARONĝEDILLAĜDOT ABOVEĠBELOWĥ AND MACRONĞUB",
    "LE GRAVEĜINVERTED BREVEĜLINE BELOWĜOBLIQUE STROKEĜSTROKEĜTAILĖEVERSED C WITH DOTĞEĞHALF HĞOPEN E",
    "ĖUM ROTUNDAĕSĖ WITH ACUTEġ AND DOT ABOVEĜCARONġ AND DOT ABOVEĝEDILLAĝIRCUMFLEXĝOMMA BELOWĜDOT AB",
    "OVEĠBELOWĥ AND DOT ABOVEĜHOOKĜOBLIQUE STROKEĜSHORT STROKE OVERLAYĝWASH TAILĖALTILLOĖCHWAėRIPT GĖ",
    "HARP SĖIGMOID SĖMALL CAPITAL IěQ WITH HOOK TAILĕTĖ WITH CARONĝEDILLAĝIRCUMFLEX BELOWĝOMMA BELOWĜ",
    "DIAGONAL STROKEĝOT ABOVEĠBELOWĜHOOKĜLINE BELOWĜRETROFLEX HOOKĜSTROKEĖHORNĚ WITH STROKEĦ THROUGH ",
    "DESCENDERĖONE FIVEĚSIXĚTWOĖRESILLOĖURNED AĝLPHAĜHĜINSULAR GĜKĜLĜMĜTĜVĖZĕUĖ BARėWITH ACUTEĜBREVEĜ",
    "CARONĝIRCUMFLEXĦ BELOWĜDIAERESISĥ AND ACUTEĪCARONĪGRAVEĪMACRONĦBELOWĝOT BELOWĞUBLE ACUTEģGRAVEĜG",
    "RAVEĜHOOK ABOVEĞRNĠ AND ACUTEĥDOT BELOWĥGRAVEĥHOOK ABOVEĥTILDEĜINVERTED BREVEĜMACRONĢ AND DIAERE",
    "SISĜOGONEKĜRING ABOVEĜSTROKEĜTILDEġ AND ACUTEĢBELOWĖPSILONĕVĖ WITH DIAGONAL STROKEĝOT BELOWĜHOOK",
    "ĜTILDEĖENDĖISIGOTHIC ZĖOLAPUK AEĝOEĝUEĖYĕWĖ WITH ACUTEĜCIRCUMFLEXĜDIAERESISĝOT ABOVEĠBELOWĜGRAVE",
    "ĜHOOKĖYNNĕXĖ WITH DIAERESISĝOT ABOVEĕYĖ WITH ACUTEĜCIRCUMFLEXĜDIAERESISĝOT ABOVEĠBELOWĜGRAVEĜHOO",
    "KĠ ABOVEĜLOOPĜMACRONĜSTROKEĜTILDEĖOGHĕZĖ WITH ACUTEĜCARONĝIRCUMFLEXĜDESCENDERĝOT ABOVEĠBELOWĜHOO",
    "KĜLINE BELOWĜPALATAL HOOKĜSTROKEĝWASH TAILďIGATURE IJėOEćROSSĆEPIGRAPHIC LETTER ARCHAIC MĘI LONG",
    "AęNVERTED MĘREVERSED FġPĘSIDEWAYS IĆLETTER AINĎLVEOLAR CLICKčBIDENTAL PERCUSSIVEďLABIAL CLICKĖPE",
    "RCUSSIVEčDENTAL CLICKčGLOTTAL STOPę WITH STROKEčINVERTED GLOTTAL STOPĢ WITH CURLĨSTROKEčLATERAL ",
    "CLICKčPHARYNGEAL VOICED FRICATIVEčRETROFLEX CLICKĜ WITH RETROFLEX HOOKďVERSED ESH LOOPĖGLOTTAL S",
    "TOP WITH STROKEčSINOLOGICAL DOTĎMALL CAPITAL AĜEěBĜARRED BěCěDěEĜTHĜZHěFěGĜ WITH HOOKěHěIĜNVERTE",
    "D RěJěKěLĜ WITH BELTĢSTROKEěMěNěOĜEĜPEN OĜUěPěQěRĜ WITH RIGHT LEGĜEVERSED NĤRĜUMěSěTĜURNED EĢGĢK",
    "ĢMĢRěUěVěWěYěZĎTRETCHED CĘ WITH CURLčTWO WITH STROKEčVOICED LARYNGEAL SPIRANTčWYNNčYRĆSMALL CAPI",
    "TAL LETTER I WITH STROKEěU WITH STROKEČLETTER AĔ REVERSED-SCHWAĕWITH ACUTEĚBREVEğ AND ACUTEĤDOT "]

/-- Part 4 of the front-coded names. -/
def namesPart4 : String := String.join [
    "BELOWĤGRAVEĤHOOK ABOVEĤTILDEĚCARONěIRCUMFLEXĤ AND ACUTEĩDOT BELOWĩGRAVEĩHOOK ABOVEĩTILDEĚDIAERES",
    "ISģ AND MACRONěOT ABOVEģ AND MACRONĞBELOWĜUBLE GRAVEĚGRAVEĚHOOK ABOVEĚINVERTED BREVEĚMACRONĚOGON",
    "EKĚRETROFLEX HOOKěIGHT HALF RINGĜNG ABOVEĤ AND ACUTEğBELOWĚSTROKEĚTILDEĔAĔEĕ WITH ACUTEěMACRONĔL",
    "PHAĘ WITH RETROFLEX HOOKĔNGLICANA WĔOĔUĔVĕ WITH HORIZONTAL BARĔYēBĔ WITH DOT ABOVEĞBELOWĚFLOURIS",
    "HĚHOOKĚLINE BELOWĚMIDDLE TILDEĚPALATAL HOOKĚSTROKEĚTOPBARĔARRED ALPHAĚEĚOĕSELINE ESHĔETAĔLACKLET",
    "TER EğOĠ WITH STROKEĔOTTOM HALF OĔROKEN LēCĔ WITH ACUTEĚBARĚCARONěEDILLAġ AND ACUTEěIRCUMFLEXěUR",
    "LĚDOT ABOVEĚHOOKĚPALATAL HOOKĚRETROFLEX HOOKĚSTROKEĔHIĖ WITH LOW LEFT SERIFĠRIGHT RINGĔLOSED INS",
    "ULAR GĚOMEGAěPEN EĚREVERSED OPEN EĔONĔUATRILLOĜ WITH COMMAēDĔ WITH CARONěEDILLAěIRCUMFLEX BELOWě",
    "URLĚDOT ABOVEĞBELOWĚHOOKĞ AND TAILĚLINE BELOWĚMIDDLE TILDEĚPALATAL HOOKĚSHORT STROKE OVERLAYěTRO",
    "KEĚTAILěOPBARĔB DIGRAPHĔELTAĕZH DIGRAPHğ WITH PALATAL HOOKĥRETROFLEX HOOKĔOTLESS IěJĜ WITH STROK",
    "EĨ AND HOOKĕUBLE Rě WITH CROSSED-TAILĚTHORNĚWYNNĔUMĔZĕ DIGRAPHĝ WITH CURLģRETROFLEX HOOKĖWITH CA",
    "RONēEĔ WITH ACUTEĚBREVEĚCARONěEDILLAġ AND BREVEěIRCUMFLEXĤ AND ACUTEĩDOT BELOWĩGRAVEĩHOOK ABOVEĩ",
    "TILDEĥBELOWĚDIAERESISěOT ABOVEĞBELOWĜUBLE GRAVEĚFLOURISHĚGRAVEĚHOOK ABOVEĚINVERTED BREVEĚMACRONĠ",
    " AND ACUTEĥGRAVEĚNOTCHĚOGONEKĚRETROFLEX HOOKĚSTROKEĚTILDEğ BELOWĔGYPTOLOGICAL AINĢLEFĔNGĖ WITH C",
    "ROSSED-TAILĜPALATAL HOOKĔSHĖ WITH CURLĜDOUBLE BARĦ AND CURLĜPALATAL HOOKĜRETROFLEX HOOKĔTĕHĔZHĖ ",
    "REVERSEDėWITH CARONĝURLĜPALATAL HOOKĜRETROFLEX HOOKĜTAILēFĔ WITH DOT ABOVEĚHOOKĚMIDDLE TILDEĚPAL",
    "ATAL HOOKĚSTROKEĔENG DIGRAPHğ WITH TRILLēGĔ WITH ACUTEĚBREVEĚCARONěEDILLAěIRCUMFLEXĚDOT ABOVEĚHO",
    "OKĚMACRONĚOBLIQUE STROKEĚPALATAL HOOKĚSTROKEĔAMMAĔHAĔLOTTAL AěIěSTOPěUēHĔ WITH BREVE BELOWĚCARON",
    "ěEDILLAěIRCUMFLEXĚDESCENDERěIAERESISěOT ABOVEĞBELOWĚHOOKĚLINE BELOWĚPALATAL HOOKĚSTROKEĔALF HĔEN",
    "Gė WITH HOOKĔVēIĔ WITH ACUTEĚBREVEĚCARONěIRCUMFLEXĚDIAERESISģ AND ACUTEěOT BELOWĜUBLE GRAVEĚGRAV",
    "EĚHOOK ABOVEĚINVERTED BREVEĚMACRONĚOGONEKĚRETROFLEX HOOKĚSTROKEĠ AND RETROFLEX HOOKĚTILDEğ BELOW",
    "ĔNSULAR DěFěGěRěSěTĕVERTED ALPHAĜOEĔOTAė WITH STROKEĖIFIED EĔSēJĔ WITH CARONěIRCUMFLEXěROSSED-TA",
    "ILĚSTROKEēKĔ WITH ACUTEĚCARONěEDILLAĚDESCENDERěIAGONAL STROKEěOT BELOWĚHOOKĚLINE BELOWĚOBLIQUE S",
    "TROKEĚPALATAL HOOKĚSTROKEĠ AND DIAGONAL STROKEĔRAēLĔ WITH ACUTEĚBARěELTĞ AND PALATAL HOOKĚCARONě",
    "EDILLAěIRCUMFLEX BELOWěURLĚDOT BELOWģ AND MACRONĜUBLE BARġMIDDLE TILDEĚFISHHOOKĚHIGH STROKEĚINVE",
    "RTED LAZY SĚLINE BELOWĚMIDDLE DOTġRINGġTILDEĚPALATAL HOOKĚRETROFLEX HOOKĨ AND BELTĚSTROKEĔAMBDA ",
    "WITH STROKEĔENIS FĕZHė WITH RETROFLEX HOOKĔJĔONG Sę WITH DIAGONAL STROKEĠOT ABOVEğHIGH STROKEĔS ",
    "DIGRAPHĔUMĔZ DIGRAPHēMĔ WITH ACUTEĚCROSSED-TAILĚDOT ABOVEĞBELOWĚHOOKĚMIDDLE TILDEĚPALATAL HOOKĔI",
    "DDLE SCOTS Sę-WELSH LLĠVĔUMēNĔ PRECEDED BY APOSTROPHEĕWITH ACUTEĚCARONěEDILLAěIRCUMFLEX BELOWěRO",
    "SSED-TAILěURLĚDESCENDERěOT ABOVEĞBELOWĚGRAVEĚLEFT HOOKěINE BELOWěONG RIGHT LEGĚMIDDLE TILDEĚOBLI",
    "QUE STROKEĚPALATAL HOOKĚRETROFLEX HOOKĚTILDEĔJĔUMēOĔ WITH ACUTEĚBREVEĚCARONěIRCUMFLEXĤ AND ACUTE",
    "ĩDOT BELOWĩGRAVEĩHOOK ABOVEĩTILDEĚDIAERESISģ AND MACRONěOT ABOVEģ AND MACRONĞBELOWĜUBLE ACUTEġGR",
    "AVEĚGRAVEĚHOOK ABOVEĜRNĞ AND ACUTEģDOT BELOWģGRAVEģHOOK ABOVEģTILDEĚINVERTED BREVEĚLONG STROKE O",
    "VERLAYĜOPĜW RING INSIDEĚMACRONĠ AND ACUTEĥGRAVEĚOGONEKĠ AND MACRONĚRETROFLEX HOOKĚSTROKEĠ AND AC",
    "UTEĚTILDEğ AND ACUTEĤDIAERESISĤMACRONĔIĔLD POLISH OĔMEGAĔOĔPEN Eę WITH RETROFLEX HOOKĘOę WITH RE",
    "TROFLEX HOOKğSTROKEęEĔUēPĔ WITH ACUTEĚDOT ABOVEĚFLOURISHĚHOOKĚMIDDLE TILDEĚPALATAL HOOKĚSQUIRREL",
    " TAILěTROKEĠ THROUGH DESCENDERĔHIēQĔ WITH DIAGONAL STROKEĚHOOKĞ TAILĚSTROKE THROUGH DESCENDERĔP ",
    "DIGRAPHēRĔ ROTUNDAĕWITH ACUTEĚCARONěEDILLAěROSSED-TAILĚDOT ABOVEĞBELOWģ AND MACRONĜUBLE GRAVEĚFI",
    "SHHOOKĢ AND MIDDLE TILDEħPALATAL HOOKĚINVERTED BREVEĚLINE BELOWěONG LEGĚMIDDLE TILDEĚOBLIQUE STR",
    "OKEĚPALATAL HOOKĚSTROKEĚTAILęOUT HANDLEĔAMS HORNĔEVERSED Cĝ WITH DOTĜEĝNGĜHALF HĜKĜOPEN EĢ WITH ",
    "HOOKĨRETROFLEX HOOKĜR WITH FISHHOOKĜSCRIPT GĔUMĖ ROTUNDAēSĔ WITH ACUTEğ AND DOT ABOVEĚCARONğ AND",
    " DOT ABOVEěEDILLAěIRCUMFLEXěOMMA BELOWěURLĚDOT ABOVEĞBELOWģ AND DOT ABOVEĚHOOKĚMIDDLE TILDEĚOBLI",
    "QUE STROKEĚPALATAL HOOKĚSHORT STROKE OVERLAYěWASH TAILĔAKHA YATĕLTILLOĔCHWAĘ WITH HOOKĞRETROFLEX",
    " HOOKĕRIPT Gě WITH CROSSED-TAILĚRě WITH RINGĔHARP SĔIDEWAYS DIAERESIZED UĜOĝ WITH STROKEĝPEN OĜT",
    "URNED MĜUĕGMOID SĔQUAT REVERSED ESHĔTIRRUP RēTĔ WITH CARONěEDILLAěIRCUMFLEX BELOWěOMMA BELOWěURL",
    "ĚDIAERESISĝGONAL STROKEěOT ABOVEĞBELOWĚHOOKĞ AND RETROFLEX HOOKĚLINE BELOWĚMIDDLE TILDEĚPALATAL ",
    "HOOKĚRETROFLEX HOOKĚSTROKEĔAILLESS PHIĔC DIGRAPH WITH CURLĔESH DIGRAPHğ WITH PALATAL HOOKĥRETROF",
    "LEX HOOKĔH WITH STRIKETHROUGHĕORNĘ WITH STROKEĤ THROUGH DESCENDERĔONE FIVEĘSIXĘTWOĕP HALF OĔRESI",
    "LLOĔS DIGRAPHĝ WITH RETROFLEX HOOKĔUMĕRNED AěEěLPHAĚDELTAĚEĚGĚHě WITH FISHHOOKĩ AND TAILĚIěNSULA",
    "R GĚKĚLĚMě WITH LONG LEGĚO OPEN-OĢ WITH STROKEěEĜ WITH HORIZONTAL STROKEĢSTROKEěPEN EĚRě WITH HO",
    "OKġLONG LEGĩ AND RETROFLEX HOOKġMIDDLE TILDEġPALATAL HOOKġTAILĚTě WITH CURLĚUIĚVĚWĚYě WITH BELTĔ",
    "ZēUĔ BARĘ WITH SHORT RIGHT LEGĕWITH ACUTEĚBREVEĚCARONěIRCUMFLEXĤ BELOWĚDIAERESISģ AND ACUTEĨCARO",
    "NĨGRAVEĨMACRONĤBELOWěOT BELOWĜUBLE ACUTEġGRAVEĚGRAVEĚHOOK ABOVEĜRNĞ AND ACUTEģDOT BELOWģGRAVEģHO",
    "OK ABOVEģTILDEĚINVERTED BREVEĚLEFT HOOKĚMACRONĠ AND DIAERESISĚOGONEKĚRETROFLEX HOOKěING ABOVEĚSH",
    "ORT RIGHT LEGěTROKEĚTILDEğ AND ACUTEĠBELOWĔEĔIĔMĔOĔPSILONĚ WITH STROKEēVĔ WITH CURLĚDIAGONAL STR",
    "OKEěOT BELOWĚHOOKĚPALATAL HOOKĚRIGHT HOOKĚTILDEĔENDĔISIGOTHIC ZĔOLAPUK AEěOEěUEĔYēWĔ WITH ACUTEĚ",
    "CIRCUMFLEXĚDIAERESISěOT ABOVEĞBELOWĚGRAVEĚHOOKĚRING ABOVEēXĔ WITH DIAERESISěOT ABOVEĚLONG LEFT L",
    "EGħ AND LOW RIGHT RINGĨWITH SERIFĜW RIGHT RINGĚPALATAL HOOKēYĔ WITH ACUTEĚCIRCUMFLEXĚDIAERESISěO",
    "T ABOVEĞBELOWĚGRAVEĚHOOKĞ ABOVEĚLOOPĚMACRONĚRING ABOVEĚSHORT RIGHT LEGěTROKEĚTILDEĔOGHēZĔ WITH A",
    "CUTEĚCARONěIRCUMFLEXěURLĚDESCENDERěOT ABOVEĞBELOWĚHOOKĚLINE BELOWĚMIDDLE TILDEĚPALATAL HOOKĚRETR",
    "OFLEX HOOKĚSTROKEěWASH TAILčIGATURE FFėIėLĖIĖLĕIJĕLONG S TĕOEĕSTćUBSCRIPT SMALL LETTER AĝEĝHĝIĝJ",
    "ĝKĝLĝMĝNĝOĝPĝRĝSĞCHWAĝTĝUĝVĝXāEAF FLUTTERING IN WINDĄY GREENĂDGERĂFT AND LOWER AND RIGHT TRIANGU",
    "LAR THREE QUARTERS BLOCKďONE EIGHTH BLOCKĉRIGHT DOUBLE TURNSTILEďTACKĐRIANGULAR HALF BLOCKĉUPPER",
    " AND RIGHT TRIANGULAR THREE QUARTERS BLOCKďONE EIGHTH BLOCKćGER BUBBLEĈLE BRACKETĒ WITH DOTĆRC L",
    "ESS-THAN BRACKETćROW WITH CIRCLED PLUSĐSMALL CIRCLEąBARB DOWN RIGHT BARB DOWN HARPOONĚUP HARPOON",
    "ĊUP RIGHT BARB DOWN HARPOONĘUP HARPOONĆLACK LENTICULAR BRACKETċTORTOISE SHELL BRACKETąCEILINGĆLO",
    "SED ENTRYĆORNER BRACKETĆURLY BRACKETĒ LOWER HOOKēMIDDLE PIECEēUPPER HOOKąDOTTED SUBSTITUTION BRA",
    "CKETćUBLE ANGLE BRACKETČPARENTHESISČQUOTATION MARKČWIGGLY FENCEąFISH TAILćVE EIGHTHS BLOCKĆLOORą",
    "HALF BLACK CIRCLEĐSTARČOCKĊCIRCLEĐ WITH DOTĖFOUR DOTSĖTHREE DOTSėWO DOTSĊFOLDERĊINVERSE MEDIUM S",
    "HADE AND RIGHT HALF BLOCKĊMEDIUM SHADEĊRUNNING MANćND TELEPHONE RECEIVERąLOW PARAPHRASE BRACKETĆ",
    "UGGAGEąMULTIMAPąNORMAL FACTOR SEMIDIRECT PRODUCTąONE EIGHTH BLOCKĉQUARTER BLOCKĆUTER JOINąPARENT",
    "HESISĐ EXTENSIONđLOWER HOOKđUPPER HOOKąRAISED OMISSION BRACKETĆIGHT ARROWĐ THROUGH SMALL CIRCLEđ",
    "WITH DOUBLE VERTICAL STROKEĖSTROKEĖVERTICAL STROKEċBLACK ARROWċDOUBLE ARROWė WITH STROKEĝVERTICA",
    "L STROKEċOPEN-HEADED ARROWċSANS-SERIF ARROWċTRIANGLE-HEADED ARROWċWAVE ARROWČHITE ARROWąS-SHAPED",
    " BAG DELIMITERĆEMIDIRECT PRODUCTćVEN EIGHTHS BLOCKĆIDEWAYS U BRACKETćNGLE QUOTATION MARKĆPEECH B",
    "UBBLEĆQUARE BRACKETē EXTENSIONĔLOWER CORNERĔUPPER CORNERĔWITH DOUBLE STROKEęQUILLęSTROKEęTICK IN",
    " BOTTOM CORNERġTOP CORNERęUNDERBARĆUBSTITUTION BRACKETąTACKĆHIRD WHITE RIGHT POINTING INDEXćOUGH",
    "T BUBBLEćREE EIGHTHS BLOCKċQUARTERS BLOCKĆORTOISE SHELL BRACKETĆRANSPOSITION BRACKETćIANGLE BESI",
    "DE VERTICAL BARċULAR ONE QUARTER BLOCKąVERTICAL BAR WITH QUILLďOX LINEąWHITE CORNER BRACKETČURLY",
    " BRACKETċLENTICULAR BRACKETċPARENTHESISċSQUARE BRACKETċTORTOISE SHELL BRACKETĆIGGLY FENCEĆRITING",
    " HANDĄ-FACING ARMENIAN ETERNITY SIGNČFISTČSVASTI SIGNė WITH DOTSąHANDED INTERLACED PENTAGRAMąPOI",
    "NTING ANGLE BRACKETĎCURVED ANGLE BRACKETĎDOUBLE ANGLE QUOTATION MARKĎMAGNIFYING GLASSąSHADED WHI",
    "TE RIGHTWARDS ARROWĆIDE ARC ANTICLOCKWISE ARROWąTO-RIGHT EMBEDDINGĎISOLATEĎMARKĎOVERRIDEĄWARDS A",
    "RROWď ABOVE ALMOST EQUAL TOĖREVERSE ALMOST EQUAL TOĞTILDE OPERATORĖSHORT RIGHTWARDS ARROWĖTILDE ",
    "OPERATORđND UPPER AND LOWER ONE EIGHTH BLOCKĐFROM BARĘ TO BLACK DIAMONDĐOVER RIGHTWARDS ARROWĐTH",
    "ROUGH LESS-THANĘSUBSETĘXđO BARĖ OVER RIGHTWARDS ARROW TO BARĔLACK DIAMONDĐWITH DOTTED STEMėUBLE ",
    "VERTICAL STROKEĕEQUILATERAL ARROWHEADĕHOOKĕLARGE TRIANGLE ARROWHEADĖOOPĕMEDIUM TRIANGLE ARROWHEA",
    "DĕNOTCHED TAILĕPLUS BELOWĕSMALL EQUILATERAL ARROWHEADěTRIANGLE ARROWHEADĖTROKEĕTAILę WITH DOUBLE",
    " VERTICAL STROKEğVERTICAL STROKEĖIP DOWNWARDSęUPWARDSĕVERTICAL STROKEď-TAILĊBACK-TILTED SHADOWED",
    " WHITE ARROWċLACK ARROWĐCIRCLED WHITE ARROWċOTTOM-SHADED WHITE ARROWĊCOMPRESSED ARROWĊDASHED ARR",
    "OWċOUBLE ARROWĖ FROM BARėWITH STROKEĜVERTICAL STROKEĖ-TAILđDASH ARROWĊFINGER-POST ARROWċRONT-TIL",
    "TED SHADOWED WHITE ARROWĊHANDČRPOON OVER RIGHTWARDS HARPOONĒWITH BARB DOWN ABOVE RIGHTWARDS HARP",
    "OON WITH BARB DOWNġBELOW LONG DASHġFROM BARġTO BARĠWARDSĜUP ABOVE LEFTWARDS HARPOON WITH BARB DO",
    "WNĦONG DASHĥRIGHTWARDS HARPOON WITH BARB UPğFROM BARğTO BARĞWARDSċEAVY ARROWĐCOMPRESSED ARROWĊLE",
    "FT-SHADED WHITE ARROWĊOPEN-HEADED ARROWĊPAIRED ARROWSĊQUADRUPLE ARROWĊRIGHT-SHADED WHITE ARROWċO",
    "CKETĊSANS-SERIF ARROWċQUARED ARROWčIGGLE ARROWĊTOP SHADED WHITE ARROWċRIANGLE ARROWHEADĒ-HEADED ",
    "ARROWğ OVER RIGHTWARDS TRIANGLE-HEADED ARROWĠTO BARĠWITH BOLD SHAFTĥDOUBLE HORIZONTAL STROKEĬVER",
    "TICAL STROKEĥHEAVY SHAFTĥLONG TIP DOWNWARDSĮUPWARDSĥMEDIUM SHAFTĥNARROW SHAFTĥVERY HEAVY SHAFTĚD",
    "ASHED ARROWĚPAIRED ARROWSčPLE ARROWđDASH ARROWċWO HEADED ARROWč-HEADED ARROW FROM BARěWITH DOUBL",
    "E VERTICAL STROKEĠTAILĤ WITH DOUBLE VERTICAL STROKEĪVERTICAL STROKEġRIANGLE ARROWHEADSĠVERTICAL ",
    "STROKEĕTRIPLE DASH ARROWĊWAVE ARROWċHITE ARROWĕ WITHIN TRIANGLE ARROWHEADĂGĂMONĂOăPARDĂPCHA CONS",
    "ONANT SIGN KėANGĖLĖMĖNėYIN-DOĖPĖRĖTćDIGIT EIGHTčFIVEĎOURčNINEčONEčSEVENĎIXčTHREEĎWOčZEROćLETTER ",
    "AĎBAďLAĎCAďHAĎDAďDAďZAĎFAďLAĎGAďLAĎHAďLAĎJAĎKAďHAďLAĎLAĎMAďLAĎNAďGAďYAĎPAďHAďLAĎRAĎSAďHAĎTAďHAďS",
    "AĐHAďTAĐHAĎVAĎWAĎYAćPUNCTUATION CER-WAēNYET THYOOM TA-ROLēTA-ROLĔSHOOKę CER-WAćSIGN NUKTAČRANĈUB",
    "JOINED LETTER RAĘYAćVOWEL SIGN AAĒEĒIĒOēOĒUēUĂSS-THAN ABOVE DOUBLE-LINE EQUAL ABOVE GREATER-THAN",
    "ĐGREATER-THAN ABOVE DOUBLE-LINE EQUALĐLEFTWARDS ARROWĐSIMILAR ABOVE GREATER-THANĘOR EQUALđLANTED",
    " EQUAL ABOVE GREATER-THAN ABOVE SLANTED EQUALċND NOT APPROXIMATEĎSINGLE-LINE NOT EQUAL TOĊBUT NO",
    "T EQUAL TOĕIVALENT TOĊCLOSED BY CURVEę ABOVE SLANTED EQUALĊEQUAL TO OR GREATER-THANĊOR APPROXIMA",
    "TEčEQUAL TOĐIVALENT TOčGREATER-THANčSLANTED EQUAL TOĝ WITH DOT ABOVEĬ RIGHTħINSIDEċVER EQUAL TOĊ",
    "SIGNĊWITH CIRCLE INSIDEďDOTďQUESTION MARK ABOVEĂVEL SLIDERāFāIBRAĂGATURE OPEN ET ORNAMENTăHT CHE",
    "CK MARKĆEIGHT SPOKED ASTERISKĆFIVE POINTED BLACK STARċSPOKED ASTERISKćOUR POINTED BLACK CUSPęSTA",
    "RĆGREEK CROSSĆLEFT TORTOISE SHELL BRACKET ORNAMENTĆRAILćIGHT TORTOISE SHELL BRACKET ORNAMENTĆSAL",
    "TIREćHADEćIX SPOKED ASTERISKĆTHREE POINTED BLACK STARćWELVE POINTED BLACK STARĆVERTICAL BARĆWHIT",
    "E SQUAREąNINGĉ MOODĎ BUBBLEĂMBU DIGIT EIGHTČFIVEčOURČNINEČONEČSEVENčIXČTHREEčWOČZEROĆEXCLAMATION",
    " MARKĆLETTER BAĎHAčCAĎHAčDAĎHAčGAĎHAĎYANčHAčJAĎHAčKAĎHAčLAčMAčNAĎGAčPAĎHAčRAčSAĎHAĎSAčTAĎHAĎRAčW",
    "AčYAďNĆQUESTION MARKĆSIGN KEMPHRENGċLOOċMUKPHRENGċSA-IćMALL LETTER ANUSVARAēKAēLAēMAēNAĔGAēPAēRA",
    "ēTAćUBJOINED LETTER RAėWAėYAĆVOWEL SIGN AĒIĒUđEĒEđIđOĒOđUċ-CARRIER LETTERăITED LIABILITY SIGNĂNE",
    " FEEDąINTEGRATION NOT INCLUDING THE POLEđWITH RECTANGULAR PATH AROUND POLEĖSEMICIRCULAR PATH ARO",
    "UND POLEąSEPARATORąTABULATIONď SETĄAR A SIGN A028Bď100-102Đ20BĐ31Cď301đ2đ3đ4đ5đ6đ7đ8đ9AĒBĒCĐ10đ1",
    "đ2đ3AĒBĒCđ4đ5đ6đ7đ8đ9Đ20đ1đ2đ3đ4đ5đ6đ7đ8đ9Đ30đ1đ2đ3đ4đ5đ6đ7đ8đ9Đ40đ1đ2đ3đ4đ5đ6đ7đ8đ9Đ50đ1đ2đ3đ4đ",
    "5đ6đ7đ8đ9Đ60đ1đ2đ3đ4đ5đ6đ7đ8đ9Đ70đ1ď400-VASđ1-VASđ2-VASđ3-VASđ4-VASđ5-VASđ6-VASđ7-VASđ8-VASđ9-VA",
    "SĐ10-VASđ1-VASđ2-VASđ3-VASđ4-VASđ5-VASđ6-VASđ7-VASđ8-VASď501đ2đ3đ4đ5đ6đ8đ9Đ10đ1đ2đ3đ5đ6Đ20đ1đ3đ4",
    "đ5đ6đ7đ8đ9Đ30đ1đ2đ4đ5đ6đ7đ8đ9Đ40đ1đ2đ5đ7đ8đ9Đ50đ1đ2đ3đ4đ5đ6đ7đ9Đ63đ4đ5đ6đ8đ9Đ70đ1đ2đ3đ4đ5đ6đ7đ8đ",
    "9Đ80đ1đ2đ3đ4đ5đ6đ7đ8đ9Đ91đ2đ4đ5đ6đ8ď600đ1đ2đ3đ4đ6đ8đ9Đ10đ1đ2đ3đ4đ5đ6đ7đ8đ9Đ20đ1đ2đ3đ4đ6đ7đ8đ9Đ34",
    "đ7đ8Đ40đ2đ3đ4đ5đ6đ8đ9Đ51đ2đ3đ4đ5đ6đ7đ8đ9Đ60đ1đ2đ3đ4ď701 Ađ2 Bđ3 Dđ4 Eđ5 Fđ6 Hđ7 Jđ8 Kđ9 LĒ-2 L2ē",
    "3 L3ē4 L4ē6 L6Đ10 Wđ1 Xđ2 Yđ3 OMEGAđ4 ABBđ5 BBđ7 DDĐ26 EYYYĐ32 JEď800đ1đ2đ3đ4đ5đ6đ7ďB001Ē2Ē3Ē4Ē5",
    "Ē6Ē7Ē8Ē9đ10Ē1Ē3Ē6Ē7đ20Ē1ēFēMĒ2ēFēMĒ3ēMĒ4Ē6Ē7Ē8Ē9đ30Ē1Ē4Ē7Ē8Ē9đ40Ē1Ē4Ē5Ē6Ē7Ē8Ē9đ50Ē1Ē3Ē4Ē5Ē6Ē7Ē8Ē",
    "9đ60Ē1Ē5Ē6Ē7Ē9đ70Ē3Ē4Ē6Ē7Ē8Ē9đ80Ē1Ē2Ē5Ē6Ē7Đ118đ20Ē2Ē3đ31AēBđ64đ71đ80Ē8đ91ćB IDEOGRAM B100 MANĕ2 ",
    "WOMANĕ4 DEERĕ5 EQUIDĖF MAREĖM STALLIONĕ6F EWEĖM RAMĕ7F SHE-GOATĖM HE-GOATĕ8F SOWĖM BOARĕ9F COWĖM",
    " BULLĔ20 WHEATĕ1 BARLEYĕ2 OLIVEĕ3 SPICEĕ5 CYPERUSĔ30 OILĕ1 WINEĕ2Ĕ40 BRONZEĕ1 GOLDĕ2ĕ5 WOOLĕ6Ĕ50",
    "ĕ1 HORNĕ2ĕ3ĕ4ĕ7ĕ8ĕ9 CLOTHĔ60ĕ1ĕ2 GARMENTĕ3 ARMOURĕ4ĕ5ĕ6ĕ7ĕ8ĕ9Ĕ70ĕ1ĕ2ĕ3 MONTHĕ4ĕ6 TREEĕ7ĕ8ĕ9Ĕ80ĕ1",
    "ĕ2ĕ3ĕ4ĕ5ĕ9Ĕ90ĕ1 HELMETē220 FOOTSTOOLĕ5 BATHTUBĔ30 SPEARĕ1 ARROWĕ2ĕ3 SWORDĕ4ĕ6Ĕ40 WHEELED CHARIOT",
    "ĕ1 CHARIOTĕ2 CHARIOT FRAMEĕ3 WHEELĕ5ĕ6ĕ8ĕ9Ĕ51ĕ2ĕ3ĕ4 DARTĕ5ĕ6ĕ7ĕ8ĕ9ĒVESSEL B155Ě200Ĝ1Ĝ2Ĝ3Ĝ4Ĝ5Ĝ6Ĝ7",
    "Ĝ8Ĝ9ě10Ĝ1Ĝ2Ĝ3Ĝ4Ĝ5Ĝ6Ĝ7Ĝ8Ĝ9ě21Ĝ2Ĝ6Ĝ7Ĝ8Ĝ9ě50Ě305ĉMONOGRAM B127 KAPOĕ8 KANAKOĔ33 AREPAĕ5 MERIĔ56 TUR",
    "O2ē247 DIPTEĉSYLLABLE B001 DAĕ2 ROĕ3 PAĕ4 TEĕ5 TOĕ6 NAĕ7 DIĕ8 Aĕ9 SEĔ10 Uĕ1 POĕ2 SOĕ3 MEĕ4 DOĕ5 ",
    "MOĕ6 QAĕ7 ZAĔ20 ZOĕ1 QIĕ3 MUĕ4 NEĕ5 A2ĕ6 RUĕ7 REĕ8 Iĕ9 PU2Ĕ30 NIĕ1 SAĕ2 QOĕ3 RA3ĕ6 JOĕ7 TIĕ8 Eĕ9",
    " PIĔ40 WIĕ1 SIĕ2 WOĕ3 A3ĕ4 KEĕ5 DEĕ6 JEĕ8 NWAĔ50 PUĕ1 DUĕ2 NOĕ3 RIĕ4 WAĕ5 NUĕ7 JAĕ8 SUĕ9 TAĔ60 R",
    "Aĕ1 Oĕ2 PTEĕ5 JUĕ6 TA2ĕ7 KIĕ8 RO2ĕ9 TUĔ70 KOĕ1 DWEĕ2 PEĕ3 MIĕ4 ZEĕ5 WEĕ6 RA2ĕ7 KAĕ8 QEĔ80 MAĕ1 K",
    "Uĕ5 AUĕ7 TWEĔ90 DWOĕ1 TWOċMBOL B018ē9Ē22Ē34Ē47ē9Ē56Ē63ē4Ē79Ē82ē3ē6ē9ăK SYMBOLĄED PAPERCLIPSĂON F",
    "ACEĂPSĄTICKĂRA SIGNĂSU LETTER AčEČBAČCAčHAČDAčZAČEčUČFAČGAčHAČHAčHAČIČJAČKAčHAČLAČMAČNAčGAČOčEČP",
    "AčHAČSAčHAČTAčHAčONE MYA BOĕCYAĕJEUĕNAĕTIđNA POčSAĎHAČUčEčHČWAČXAČYAčHAČZAčHAąPUNCTUATION COMMAđ",
    "FULL STOPĂVRE TOURNOIS SIGNĂZARDāLAMAāOBSTERĂCKĄ WITH INK PENĄING-SHIFT ONEĎZEROĂGICAL ANDċ WITH",
    " DOT ABOVEēUBLE OVERBARĘUNDERBARđHORIZONTAL DASHđMIDDLE STEMđUNDERBARĈORĊ OVERLAPPING LOGICAL AN",
    "DċWITH DOT ABOVEĒUBLE OVERBARėUNDERBARĐHORIZONTAL DASHĐMIDDLE STEMĂLLIPOPĂNG DASH FROM LEFT MEMB",
    "ER OF DOUBLE VERTICALĆIVISIONĆRUMąLEFT RIGHT ARROWĐDOUBLE ARROWĊTACKĉWARDS ARROWĔ FROM BARďDOUBL",
    "E ARROWě FROM BARďSQUIGGLE ARROWąRIGHT TACKĊWARDS ARROWĕ FROM BARĐDOUBLE ARROWĜ FROM BARĐSQUIGGL",
    "E ARROWĂTION BOTTLEăUSĂUDLY CRYING FACEĂVE HOTELąLETTERĂW ASTERISKĄBATTERYąRIGHTNESS SYMBOLĄDOUB",
    "LE PRIME QUOTATION MARKĄKAVYKAĊ WITH DOTĄLINEăER BLADE SCISSORSĆFIVE EIGHTHS BLOCKĆHALF BLOCKċCI",
    "RCLEċINVERSE WHITE CIRCLEċMEDIUM SHADEĆLEFT BALLPOINT PENČLOCK DIAGONAL LOWER MIDDLE LEFT TO LOW",
    "ER CENTREĵRIGHTĚUPPER CENTRE TO LOWER MIDDLE RIGHTİRIGHTĪUPPER MIDDLE RIGHTĠLEFT TO LOWER CENTRE",
    "ĮMIDDLE RIGHTĨUPPER MIDDLE RIGHTĠMIDDLE LEFT TO LOWER CENTREĵMIDDLE RIGHTĵRIGHTċCRAYONċFOUNTAIN ",
    "PENċPAINTBRUSHČENCILċQUADRANT CIRCULAR ARCċSEMICIRCULAR ANTICLOCKWISE ARROWċTRIANGLEđULAR MEDIUM",
    " SHADEĆONE EIGHTH BLOCKĊQUARTER BLOCKĆRIGHT BLOCK DIAGONAL LOWER CENTRE TO LOWER MIDDLE RIGHTīUP",
    "PER MIDDLE RIGHTıRIGHTġLEFT TO LOWER MIDDLE RIGHTĩUPPER CENTREįMIDDLE RIGHTġMIDDLE LEFT TO UPPER",
    " CENTREĶMIDDLE RIGHTĶRIGHTěUPPER MIDDLE LEFT TO UPPER CENTREĶRIGHTČCORNER WITH DOTČDROP-SHADOWED",
    " WHITE SQUAREČPENCILČQUADRANT CIRCULAR ARCČSEMICIRCULAR CLOCKWISE ARROWčHADOWED WHITE CIRCLEěSQU",
    "AREČTRIANGLEĒULAR MEDIUM SHADEĆSEVEN EIGHTHS BLOCKĆTHREE EIGHTHS BLOCKČQUARTERS BLOCKćRIANGULAR ",
    "ONE QUARTER BLOCKĂZENGEć DIVIDED BY HORIZONTAL RULEāREĂIĂMĂOāUGGAGEĂNGSāYCIAN LETTER AďNĎBďHĎDĎE",
    "ďNĎGĎHĎIĎJĎKďKĎLĎMďMĎNďNĎPĎQĎRĎSĎTďHďTĎUĎWĎXĎZĂDIAN LETTER AďNĎBĎCĎDĎEďNĎFĎGĎIĎKĎLďYĎMĎNďNĎOĎQĎR",
    "ĎSďSĎTďTĎUĎVĎYćTRIANGULAR MARKĂING FACEĀMACRONĂGEăIC WANDăNETĂHAJANI ABBREVIATION SIGNĉLETTER AĐ",
    "BAđHAĐCAđHAĐDAđDAĒHAđHAĐEĐGAđHAĐHAĐIĐJAđHAĐKAđHAĐLAĐMAĐNAđNAđYAĐOĐPAđHAĐRAđRAĐSAĐTAđHAđTAĒHAĐUĐV",
    "AĊIGATURE SHRIĉSECTION MARKĊIGN NUKTAăJONG TILE AUTUMNčBACKďMBOOčCHRYSANTHEMUMčEAST WINDĎIGHT OF",
    " BAMBOOSĖCHARACTERSėIRCLESčFIVE OF BAMBOOSĕCHARACTERSĖIRCLESĎOUR OF BAMBOOSĕCHARACTERSĖIRCLESčGR",
    "EEN DRAGONčJOKERčNINE OF BAMBOOSĕCHARACTERSĖIRCLESĎORTH WINDčONE OF BAMBOOSĔCHARACTERSĕIRCLESĎRC",
    "HIDčPLUMčRED DRAGONčSEVEN OF BAMBOOSĖCHARACTERSėIRCLESĎIX OF BAMBOOSĔCHARACTERSĕIRCLESĎOUTH WIND",
    "ĎPRINGĎUMMERčTHREE OF BAMBOOSĖCHARACTERSėIRCLESĎWO OF BAMBOOSĔCHARACTERSĕIRCLESčWEST WINDĎHITE D",
    "RAGONĎINTERĂKASAR ANGKAĈEND OF SECTIONĈLETTER AďBAďCAďDAďGAďJAďKAďLAďMAďNAĐGAĐYAďPAďRAďSAďTAďVAď",
    "YAĈPASSIMBANGĈVOWEL SIGN EēIēOēUĂLAYALAM AU LENGTH MARKĊDATE MARKċIGIT EIGHTĐFIVEđOURĐNINEĐONEĐS",
    "EVENđIXĐTHREEđWOĐZEROĊFRACTION ONE EIGHTHėFIFTHĘORTIETHėHALFėONE-HUNDRED-AND-SIXTIETHėQUARTERėSI",
    "XTEENTHėTENTHĘWENTIETHēTHREE EIGHTIETHSęQUARTERSęSIXTEENTHSęTWENTIETHSĊLETTER AĒAĒIĒRCHAIC IIĒUđ",
    "BAĒHAđCAĒHAēILLU KĘLęLĚLĘMĘNęNĘRRĘYđDAĒDAēHAĒHAĒOT REPHđEĒEđGAĒHAđHAđIĒIđJAĒHAđKAĒHAđLAĒLAēLAđMA",
    "đNAĒGAĒNAēNAĒYAđOĒOđPAĒHAđRAĒRAđSAĒHAĒSAđTAĒHAĒTAēHAēTAđUĒUđVAĒEDIC ANUSVARAĒOCALIC LĚLęRĚRđYAĊN",
    "UMBER ONE HUNDREDĕTHOUSANDđTENĊSIGN ANUSVARAĐVAGRAHAďCANDRABINDUĐIRCULAR VIRAMAĐOMBINING ANUSVAR",
    "A ABOVEďPARAďVERTICAL BAR VIRAMAĐIRAMAđSARGAĊVOWEL SIGN AAĖIĖUĕEĖEĕIĖIĕOĖOĕUĖUĕVOCALIC LĞLĝRĞRăE",
    " AND FEMALE SIGNąSIGNąWITH STROKE AND MALE AND FEMALE SIGNđSIGNăTESE CROSSĂMMOTHĂNă AND WOMAN HO",
    "LDING HANDSĄDANCINGĄIN BUSINESS SUIT LEVITATINGćTUXEDOĄWITH GUA PI MAOĉTURBANăAT SIGNăDAIC AFFRI",
    "CATION MARKĈGEMINATION MARKĈLETTER ABĐDĐGĐHĐINĐKđSAĐLĐMĐNĐPĐQĐRĐSđHđZĐTđTĐZďDUSHENNAďHALQAďINĐTď",
    "KADďUSHENNAĈPUNCTUATIONĈVOCALIZATION MARKăGOăICHAEAN ABBREVIATION MARK ABOVEĝBELOWċLETTER AAYINē",
    "LEPHēYINĒBETHēHETHĒDALETHēHAMEDHĒFEĒGHIMELēIMELĒHEĔTHĒJAYINēHAYINĒKAPHēHAPHĒLAMEDHĒMEMĒNUNĒPEĒQH",
    "OPHēOPHĒRESHĒSADHEĔMEKHēHINēSHINĒTAWēETHēHAMEDHĒWAWĒXAPHēOPHĒYODHĒZAYINēHAYINċNUMBER FIVEĒONEĕ H",
    "UNDREDĒTENēWENTYċPUNCTUATION DOTĚ WITHIN DOTęUBLE DOT WITHIN DOTėFLEURONėLINE FILLERėSTARėTWO DO",
    "TSċSIGN UDăS SHOEăTELPIECE CLOCKăUAL WHEELCHAIRĂP SYMBOL FOR LIGHTHOUSEăLE LEAFĂRCHEN HEAD MARKĈ",
    "LETTER -AďAďBAďCAĐHAďDAĐZAďGAďHAďJAďKAĐHAďLAďMAďNAĐGAĐYAďPAĐHAďRAďSAĐHAďTAĐHAĐSAđHAďWAďYAďZAĐHAĈ",
    "MARK SHADĈSIGN ANUSVARAčCANDRABINDUĉUBJOINED LETTER AęBAęCAĚHAęDAĚZAęGAęHAęJAęKAĚHAęLAęMAęNAĚGAĚ",
    "YAęPAĚHAęRAęSAĚHAęTAĚHAĚSAěHAęWAęYAęZAĚHAĈVOWEL SIGN AAēEēIēOēUăRIAGE SYMBOLăTIAL ARTS UNIFORMĂS",
    "ARAM GONDI DIGIT EIGHTĔFIVEĕOURĔNINEĔONEĔSEVENĕIXĔTHREEĕWOĔZEROĎLETTER AĖAĖIĖUĕBAĖHAĕCAĖHAĕDAĖDA",
    "ėHAĖHAĕEĕGAĖHAĕHAĕIĖIĕJAĖHAĖNYAĕKAĖHAĖSSAĕLAĖLAĕMAĕNAĖGAĖNAĖYAĕOĕPAĖHAĕRAĕSAĖHAĖSAĕTAĖHAĖRAĖTAėH",
    "AĕUĖUĕVAĕYAĎRA-KARAďEPHAĎSIGN ANUSVARAēCANDRAēHALANTAēNUKTAēVISARGAĎVIRAMAďOWEL SIGN AAĚIĚUęEęIĚ",
    "IęOęUĚUęVOCALIC RăCULINE ORDINAL INDICATORăK WORK SYMBOLăU MARKĂTE DRINKăHEMATICAL BOLD CAPITAL ",
    "AěLPHAĚBěETAĚCěHIĚDěELTAěIGAMMAĚEěPSILONěTAĚFĚGěAMMAĚHĚIěOTAĚJĚKěAPPAĚLěAMDAĚMěUĚNěUĚOěMEGAĜICRO",
    "NĚPěHIěIěSIĚQĚRěHOĚSěIGMAĚTěAUěHETAğ SYMBOLĚUěPSILONĚVĚWĚXěIĚYĚZěETAĒDIGIT EIGHTĘFIVEęOURĘNINEĘO",
    "NEĘSEVENęIXĘTHREEęWOĘZEROĒEPSILON SYMBOLĒFRAKTUR CAPITAL AĢBĢCĢDĢEĢFĢGĢHĢIĢJĢKĢLĢMĢNĢOĢPĢQĢRĢSĢT",
    "ĢUĢVĢWĢXĢYĢZĚSMALL AĠBĠCĠDĠEĠFĠGĠHĠIĠJĠKĠLĠMĠNĠOĠPĠQĠRĠSĠTĠUĠVĠWĠXĠYĠZĒITALIC CAPITAL AĢLPHAġBĢE",
    "TAġCĢHIġDĢELTAġEĢPSILONĢTAġFġGĢAMMAġHġIĢOTAġJġKĢAPPAġLĢAMDAġMĢUġNĢUġOĢMEGAģICRONġPĢHIĢIĢSIġQġRĢH",
    "OġSĢIGMAġTĢAUĢHETAĦ SYMBOLġUĢPSILONġVġWġXĢIġYġZĢETAęEPSILON SYMBOLęKAPPA SYMBOLęNABLAęPARTIAL DI",
    "FFERENTIALĚHI SYMBOLĚI SYMBOLęRHO SYMBOLęSMALL AĠLPHAğBĠETAğCĠHIğDĠELTAğEĠPSILONĠTAğFĠINAL SIGMA",
    "ğGĠAMMAğHğIĠOTAğJğKĠAPPAğLĠAMDAğMĠUğNĠUğOĠMEGAġICRONğPĠHIĠIĠSIğQğRĠHOğSĠIGMAğTĠAUĠHETAğUĠPSILONğ",
    "VğWğXĠIğYğZĠETAęTHETA SYMBOLĒKAPPA SYMBOLĒNABLAĒPARTIAL DIFFERENTIALēHI SYMBOLēI SYMBOLĒRHO SYMB",
    "OLĒSCRIPT CAPITAL AġBġCġDġEġFġGġHġIġJġKġLġMġNġOġPġQġRġSġTġUġVġWġXġYġZęSMALL AğBğCğDğEğFğGğHğIğJğ",
    "KğLğMğNğOğPğQğRğSğTğUğVğWğXğYğZēMALL AęLPHAĘBęETAĘCęHIĘDęELTAęIGAMMAĘEęPSILONęTAĘFęINAL SIGMAĘGę",
    "AMMAĘHĘIęOTAĘJĘKęAPPAĘLęAMDAĘMęUĘNęUĘOęMEGAĚICRONĘPęHIęIęSIĘQĘRęHOĘSęIGMAĘTęAUęHETAĘUęPSILONĘVĘW",
    "ĘXęIĘYĘZęETAĒTHETA SYMBOLčDOUBLE-STRUCK CAPITAL AģBģDģEģFģGģIģJģKģLģMģOģSģTģUģVģWģXģYěDIGIT EIGH",
    "TġFIVEĢOURġNINEġONEġSEVENĢIXġTHREEĢWOġZEROěSMALL AġBġCġDġEġFġGġHġIġJġKġLġMġNġOġPġQġRġSġTġUġVġWġX",
    "ġYġZčFALLING DIAGONALĎRAKTUR CAPITAL AĝBĝDĝEĝFĝGĝJĝKĝLĝMĝNĝOĝPĝQĝSĝTĝUĝVĝWĝXĝYĕSMALL AěBěCěDěEěF",
    "ěGěHěIěJěKěLěMěNěOěPěQěRěSěTěUěVěWěXěYěZčITALIC CAPITAL AĝLPHAĜBĝETAĜCĝHIĜDĝELTAĜEĝPSILONĝTAĜFĜG",
    "ĝAMMAĜHĜIĝOTAĜJĜKĝAPPAĜLĝAMDAĜMĝUĜNĝUĜOĝMEGAĞICRONĜPĝHIĝIĝSIĜQĜRĝHOĜSĝIGMAĜTĝAUĝHETAġ SYMBOLĜUĝP",
    "SILONĜVĜWĜXĝIĜYĜZĝETAĔEPSILON SYMBOLĔKAPPA SYMBOLĔNABLAĔPARTIAL DIFFERENTIALĕHI SYMBOLĕI SYMBOLĔ",
    "RHO SYMBOLĔSMALL AěLPHAĚBěETAĚCěHIĚDěELTAěOTLESS IĢJĚEěPSILONěTAĚFěINAL SIGMAĚGěAMMAĚIěOTAĚJĚKěA",
    "PPAĚLěAMDAĚMěUĚNěUĚOěMEGAĜICRONĚPěHIěIěSIĚQĚRěHOĚSěIGMAĚTěAUěHETAĚUěPSILONĚVĚWĚXěIĚYĚZěETAĔTHETA",
    " SYMBOLčLEFT ANGLE BRACKETĒDOUBLE ANGLE BRACKETĒFLATTENED PARENTHESISĒWHITE SQUARE BRACKETĘTORTO",
    "ISE SHELL BRACKETčMONOSPACE CAPITAL AğBğCğDğEğFğGğHğIğJğKğLğMğNğOğPğQğRğSğTğUğVğWğXğYğZėDIGIT EI",
    "GHTĝFIVEĞOURĝNINEĝONEĝSEVENĞIXĝTHREEĞWOĝZEROėSMALL AĝBĝCĝDĝEĝFĝGĝHĝIĝJĝKĝLĝMĝNĝOĝPĝQĝRĝSĝTĝUĝVĝW",
    "ĝXĝYĝZčRIGHT ANGLE BRACKETēDOUBLE ANGLE BRACKETēFLATTENED PARENTHESISēWHITE SQUARE BRACKETęTORTO",
    "ISE SHELL BRACKETďSING DIAGONALčSANS-SERIF BOLD CAPITAL AĦLPHAĥBĦETAĥCĦHIĥDĦELTAĥEĦPSILONĦTAĥFĥG",
    "ĦAMMAĥHĥIĦOTAĥJĥKĦAPPAĥLĦAMDAĥMĦUĥNĦUĥOĦMEGAħICRONĥPĦHIĦIĦSIĥQĥRĦHOĥSĦIGMAĥTĦAUĦHETAĪ SYMBOLĥUĦP",
    "SILONĥVĥWĥXĦIĥYĥZĦETAĝDIGIT EIGHTģFIVEĤOURģNINEģONEģSEVENĤIXģTHREEĤWOģZEROĝEPSILON SYMBOLĝITALIC",
    " CAPITAL AĭLPHAĬBĭETAĬCĭHIĬDĭELTAĬEĭPSILONĭTAĬFĬGĭAMMAĬHĬIĭOTAĬJĬKĭAPPAĬLĭAMDAĬMĭUĬNĭUĬOĭMEGAĮIC",
    "RONĬPĭHIĭIĭSIĬQĬRĭHOĬSĭIGMAĬTĭAUĭHETAı SYMBOLĬUĭPSILONĬVĬWĬXĭIĬYĬZĭETAĤEPSILON SYMBOLĤKAPPA SYMB",
    "OLĤNABLAĤPARTIAL DIFFERENTIALĥHI SYMBOLĥI SYMBOLĤRHO SYMBOLĤSMALL AīLPHAĪBīETAĪCīHIĪDīELTAĪEīPSI",
    "LONīTAĪFīINAL SIGMAĪGīAMMAĪHĪIīOTAĪJĪKīAPPAĪLīAMDAĪMīUĪNīUĪOīMEGAĬICRONĪPīHIīIīSIĪQĪRīHOĪSīIGMAĪ",
    "TīAUīHETAĪUīPSILONĪVĪWĪXīIĪYĪZīETAĤTHETA SYMBOLĝKAPPA SYMBOLĝNABLAĝPARTIAL DIFFERENTIALĞHI SYMBO",
    "LĞI SYMBOLĝRHO SYMBOLĝSMALL AĤLPHAģBĤETAģCĤHIģDĤELTAģEĤPSILONĤTAģFĤINAL SIGMAģGĤAMMAģHģIĤOTAģJģK",
    "ĤAPPAģLĤAMDAģMĤUģNĤUģOĤMEGAĥICRONģPĤHIĤIĤSIģQģRĤHOģSĤIGMAģTĤAUĤHETAģUĤPSILONģVģWģXĤIģYģZĤETAĝTHE",
    "TA SYMBOLĘCAPITAL AĠBĠCĠDĠEĠFĠGĠHĠIĠJĠKĠLĠMĠNĠOĠPĠQĠRĠSĠTĠUĠVĠWĠXĠYĠZĘDIGIT EIGHTĞFIVEğOURĞNINEĞ",
    "ONEĞSEVENğIXĞTHREEğWOĞZEROĘITALIC CAPITAL AħBħCħDħEħFħGħHħIħJħKħLħMħNħOħPħQħRħSħTħUħVħWħXħYħZğSM",
    "ALL AĥBĥCĥDĥEĥFĥGĥHĥIĥJĥKĥLĥMĥNĥOĥPĥQĥRĥSĥTĥUĥVĥWĥXĥYĥZĘSMALL AĞBĞCĞDĞEĞFĞGĞHĞIĞJĞKĞLĞMĞNĞOĞPĞQĞ",
    "RĞSĞTĞUĞVĞWĞXĞYĞZĎCRIPT CAPITAL AĜCĜDĜGĜJĜKĜNĜOĜPĜQĜSĜTĜUĜVĜWĜXĜYĜZĔSMALL AĚBĚCĚDĚFĚHĚIĚJĚKĚLĚMĚ",
    "NĚPĚQĚRĚSĚTĚUĚVĚWĚXĚYĚZĂXIMIZEĂYAN NUMERAL EIGHTēEENďLEVENĎFIFTEENĐVEďOURĒTEENĎNINEĒTEENĎONEĎSEV",
    "ENēTEENďIXđTEENĎTENďHIRTEENĐREEďWELVEĐOĎZEROāEASURED ANGLEĎ OPENING LEFTďWITH OPEN ARM ENDING IN",
    " ARROW POINTING DOWN AND LEFTĿRIGHTĶLEFT AND DOWNĿUPĶRIGHT AND DOWNŀUPĶUP AND LEFTĽRIGHTĉBYĉRIGH",
    "T ANGLE WITH DOTăT ON BONEĂCHANICAL ARMċLEGĂDEFAIDRIN CAPITAL LETTER AĜIĜTIUěBěCěDěEěFěGěHĜPěIěJ",
    "ěKĜPěLěMěNĜGĜYěOĜEěPěQěRěSěTěUěVěWěXěYĜUěZčOMMAČDIGIT EIGHTĒFIVEēOURĒNINEĒONEĕ ALTERNATE FORMĒSE",
    "VENēIXĒTHREEė ALTERNATE FORMēWOĕ ALTERNATE FORMĒZEROČEXCLAMATION OHČFULL STOPČNUMBER EIGHTEENĔLE",
    "VENēFIFTEENĔOURTEENēNINETEENēSEVENTEENĔIXTEENēTENĔHIRTEENĔWELVEČSMALL LETTER AĚIĚTIUęBęCęDęEęFęG",
    "ęHĚPęIęJęKĚPęLęMęNĚGĚYęOĚEęPęQęRęSęTęUęVęWęXęYĚUęZčYMBOL AIVAăIEVAL COMMAĉEXCLAMATION MARKĉQUEST",
    "ION MARKĄUM BLACK CIRCLEĈOLD WHITE CIRCLEćEIGHT POINTED BLACK STARčSPOKED ASTERISKćFIVE SPOKED A",
    "STERISKĈLATTENED LEFT PARENTHESIS ORNAMENTđRIGHT PARENTHESIS ORNAMENTĈOUR POINTED BLACK STARĔPIN",
    "WHEEL STARćGREEK CROSSćLEFT CURLY BRACKET ORNAMENTČPARENTHESIS ORNAMENTċ-POINTING ANGLE BRACKET ",
    "ORNAMENTćMATHEMATICAL SPACEćRIGHT CURLY BRACKET ORNAMENTčPARENTHESIS ORNAMENTČ-POINTING ANGLE BR",
    "ACKET ORNAMENTćSALTIREĈHADEĈIX POINTED BLACK STARċSPOKED ASTERISKĈMALL WHITE CIRCLEćTHREE POINTE",
    "D BLACK STARĕPINWHEEL STARćVERTICAL BARćWHITE CIRCLEčSQUAREĂETEI MAYEK AHANG KHUDAMĎNJIĎPUN IYEK",
    "čCHEIKHANēEIčDIGIT EIGHTēFIVEĔOURēNINEēONEēSEVENĔIXēTHREEĔWOēZEROčLETTER ATIYAĔBAĕHAMĔCHAĖILĔDDA",
    "ĖHAĕHOUĕILĔEĔGHOUĕOKĔHUKĔIĕ LONSUMĔJHAMĕILĔKHOUĕOKė LONSUMĔLAIė LONSUMĔMITė LONSUMĔNAĖ LONSUMĕGO",
    "UĘ LONSUMĕNAĕYAĔOĔPAĖ LONSUMĕHAMĔRAIĔSAMĕHAĕSAĔTHOUĕILė LONSUMĕTAĖHAĔUNĔWAIĔYANGĎUM IYEKčSYLLABL",
    "E REPETITION MARKčVIRAMAĎOWEL SIGN AAIĚUęNAPęUĘCHEINAPĘIIęNAPĘNUNGĘONAPĘSOUNAPĘUNAPęUĘVISARGAĘYE",
    "NAPčWORD REPETITION MARKĂLONăTING FACEĂMOĂNDE KIKAKUI COMBINING NUMBER HUNDRED THOUSANDSĦSğMILLI",
    "ONSğTEENSġN THOUSANDSĢSĠHOUSANDSĎDIGIT EIGHTĔFIVEĕOURĔNINEĔONEĔSEVENĕIXĔTHREEĕWOĎSYLLABLE M001 K",
    "IĚ2 KAĚ3 KUĚ4 WIĚ5 WAĚ6 WUĚ7 MINĚ8 MANĚ9 MUNę10 BIĚ1 BAĚ2 BUĚ3 IĚ4 AĚ5 UĚ6 DIĚ7 DAĚ8 DUĚ9 SIę20 ",
    "SAĚ1 SUĚ2 TIĚ3 TAĚ4 TUĚ5 LIĚ6 LAĚ7 LUĚ8 JIĚ9 JAę30 JUĚ1 YIĚ2 YAĚ3 YUĚ4 FIĚ5 FAĚ6 FUĚ7 NINĚ8 NANĚ",
    "9 NUNę40 HEEĚ1 HAĚ2 HOOĚ3 NGGAĚ4 KPEEĚ5 WOĚ6 HUANĚ7 MBEEĚ8 KOĚ9 WVAę50 PUĚ1 PEĚ2 HENĚ3 HINĚ4 LOO",
    "Ě5 TEĚ6 GBAĚ7 NGONĚ8 NYANĚ9 MENę60 NYONĚ1 WVIĚ2 MBAĚ3 JOĚ4 NDOĚ5 KEEĚ6 POĚ7 NDOOĚ8 PIĚ9 TOę70 GB",
    "OĚ1 GBOOĚ2 MBEĚ3 LEĚ4 KPUĚ5 FEĚ6 KOOĚ7 VOĚ8 FEEĚ9 SOę80 YEĚ1 PEEĚ2 NGGUĚ3 HEEIĚ4 LEEĚ5 VEĚ6 LONG",
    " NGGEĚ7 HUNĚ8 FOĚ9 DEEę90 NGGIĚ1 TEEĚ2 KPAĚ3 GBEEĚ4 MONĚ5 KEĚ6 HEĚ7 BEĚ8 NYENĚ9 PAĘ100 EĚ1 FANĚ2",
    " POOĚ3 BOOĚ4 TOOĚ5 LONG MBOOĚ6 LONG NGGOOĚ7 GBEĚ8 KPEĚ9 YEEę10 LONG LEĚ1 GAĚ2 KPOOĚ3 JEĚ4 WOOĚ5 ",
    "NGGEEĚ6 SEĚ7 NENĚ8 WEĚ9 NDEę20 NGGOĚ1 YOĚ2 MBUĚ3 NDIĚ4 GBIĚ5 NDUĚ6 WEEĚ7 NGGUAĚ8 HOOUĚ9 NDAę30 H",
    "ANĚ1 INĚ2 KPIĚ3 FOOĚ4 NJOOĚ5 INĚ6 SOOĚ7 EIĚ8 BOĚ9 WVEę40 HOĚ1 YOOĚ2 LONG MBOĚ3 WEIĚ4 VOOĚ5 MBIĚ6",
    " NGGEĚ7 OĚ8 GBUĚ9 NJEEę50 BEEĚ1 VUĚ2 NJAĚ3 LOĚ4 MUANĚ5 GIĚ6 NGGOOĚ7 JEEĚ8 KPOĚ9 NGGAAę60 JOOĚ1 L",
    "ONG MBEĚ2 SEEĚ3 EEĚ4 NYINĚ5 OOĚ6 GUEIĚ7 GUANĚ8 GUĚ9 NONę70 NYUNĚ1 RAĚ2 MBOOĚ3 VEEĚ4 MBOĚ5 LONG J",
    "OĚ6 HIĚ7 NGUANĚ8 ENĚ9 KUAę80 DOOĚ1 DOĚ2 VIĚ3 LONG NGGOĚ4 NGENĚ5 VAĚ6 HUĚ7 MBUUĚ8 MBEEĚ9 MUENę90 ",
    "GEEĚ1 NDEEĚ2 NJUĚ3 HONĚ4 WUIĚ5 ANĚ6 SIAĚ7 FUAăORAH WITH NINE BRANCHESăS SYMBOLĂRCURYăOITIC CURSI",
    "VE FRACTION EIGHT TWELFTHSěLEVEN TWELFTHSĚFIVE TWELFTHSěOUR TWELFTHSĚNINE TWELFTHSĚONE HALFĞTWEL",
    "FTHĚSEVEN TWELFTHSěIX TWELFTHSĚTEN TWELFTHSěHREE TWELFTHSěWO TWELFTHSđLETTER AęRCHAIC SAĘBAĘDAĘE",
    "ĘHHAĘIĘKAęHAĘLAĘMAĘNAęEĘOĘPAĘQAĘRAĘSAęEĘTAęEęOĘWAĘYAĒOGOGRAM IMNĚRMTđNUMBER EIGHTĝ HUNDREDĥ THOU",
    "SANDĞTHOUSANDĝY THOUSANDĘFIFTYĝ THOUSANDĚVEĜ HUNDREDĤ THOUSANDĝTHOUSANDęORTYĝ THOUSANDĚURĜ HUNDR",
    "EDĤ THOUSANDĝTHOUSANDĘNINEĜ HUNDREDĤ THOUSANDĝTHOUSANDĜTY THOUSANDĘONEě HUNDREDģ THOUSANDĜTHOUSA",
    "NDĘSEVENĝ HUNDREDĥ THOUSANDĞTHOUSANDĝTYğ THOUSANDęIXě HUNDREDģ THOUSANDĜTHOUSANDěTYĝ THOUSANDĘTE",
    "Ně THOUSANDęHIRTYĞ THOUSANDĚREEĝ HUNDREDĥ THOUSANDĞTHOUSANDęWENTYĞ THOUSANDĚOě HUNDREDģ THOUSAND",
    "ĜTHOUSANDĉHIEROGLYPHIC LETTER AĝBAğ-2ĝDAĝEĝHHAĝIĝKAĞHAĝLAĝMAĝNAğ-2ĞEğ-2ĝOĝPAĝQAĝRAğ-2ĝSAğ-2ĞEĝTA",
    "ğ-2ĞEğ-2ĞOĝWAĝYAĖSYMBOL VIDJġ-2ăPERSONĂSSAGE WAITINGĂTRICAL BREVEĉLONG OVER SHORTēTWO SHORTSĉPEN",
    "TASEMEĉSHORT OVER LONGĉTETRASEMEĊRISEMEĊWO SHORTS JOINEDĔOVER LONGĄOāIAO LETTER AHčRCHAIC MAĔNAĕ",
    "GAĔZZAČBAčRIČDAčDAčLHAďYAčZAĎHAĎYIĎZAČFAČGAčHAĎHAČHAčHAČKAČLAčHAĎYAčYAČMAčHAČNAĎSALIZATIONčGAĎHA",
    "čHAčNAĎHAčYAĎHAČPAčLAČQAčGAČREFORMED TONE-1Ě2Ě4Ě5Ě6Ě8ĖSHAčTEČSAčHAčSAčYIČTAčEčLHAďYAčONE-2đ3đ4đ5",
    "đ6đ7đ8čSAĎEĎHAĎSAčTAČVAčFAČWAČXAČYI DZHAďKAďNNAďPAďTAĐSAđHAĐTAČZAčHAčSAĎHAčZAĎSAďYAĎYAąSIGN ASPI",
    "RATIONĊCONSONANT MODIFIER BARĊREFORMED ASPIRATIONēVOICINGąTONE ABOVEĊBELOWĊRIGHTĊTOP RIGHTąVOWEL",
    " SIGN AđAđEĒEđHHđIđNĒGđUĐEđAđIđNĒGđRĒRĐIđAĒNēGđEđGđIđNGđOĒNGđUĐNđGĐOđERĒYđGđOđUĐROUNDED ERĚRĐUđA",
    "ĒNēGđEIđIđNGđOGđUĐVWĐWđOĐYđIđUIĂCR DASH SYMBOLąON US SYMBOLĄO SIGNąBEąPHONEąSCOPEĂDDLE DOTćTHIRD",
    " WHITE RIGHT POINTING INDEXăLINE HORIZONTAL ELLIPSISĂLITARY HELMETĉMEDALăKY WAYăL SIGNĂNIBUSĄDIS",
    "CĄMIZEăUS SIGNĊ IN TRIANGLEċWITH COMMA ABOVEĐDOT BELOWĐFALLING DOTSĐRISING DOTSĆTILDEą-OR-PLUS S",
    "IGNăYĂRRORĆ BALLāMSPāOBILE PHONEČ OFFčWITH RIGHTWARDS ARROW AT LEFTĂDELSĄRN PENTATHLONăI ABBREVI",
    "ATION SIGNąDANDAĆIGIT EIGHTċFIVEČOURċNINEċONEċSEVENČIXċTHREEČWOċZEROĆOUBLE DANDAąLETTER AčAčIčUČ",
    "BAčHAČCAčHAČDAčDAĎHAčHAČEČGAčHAČHAČIčIČJAčHAČKAčHAČLAčLAČMAČNAčGAčNAčYAČOČPAčHAČRAČSAčHAčSAČTAčH",
    "AčTAĎHAČUčUČVAčOCALIC LĕLĔRĕRČYAąSIGN ANUSVARAċRDHACANDRAĊHUVAĊVIRAMAČSARGAąVOWEL SIGN AAđIđUĐEĐ",
    "IđIĐOĐUđUĐVOCALIC LęLĘRęRĄFIER BREVE WITH INVERTED BREVEĉLETTER ACUTE ACCENTđLVEOLAR CLICKđPOSTR",
    "OPHEĐBEGIN HIGH TONEĖLOW TONEđILABIAL CLICKĐCAPITAL AęEĘBęARRED BĘCĘDĘEĘFĘGĘHę WITH STROKEĘIĘJĘK",
    "ĘLĘMĘNĘOęUĘPĘQĘRęEVERSED EġNĘTĘUĘVĘWđENTRED LEFT HALF RINGĘRIGHT HALF RINGđHINESE TONE YANG PING",
    "ĢQUĢRUĢSHANGĞIN PINGġQUġRUġSHANGđIRCUMFLEX ACCENTđOLONđROSS ACCENTđYRILLIC ENęHARD SIGNęSOFT SIG",
    "NĐDENTAL CLICKđOT HORIZONTAL BARĔSLASHĔVERTICAL BARĒUBLE APOSTROPHEėPRIMEĒWN ARROWHEADĕTACKĐEND ",
    "HIGH TONEĔLOW TONEđXTRA-HIGH DOTTED LEFT-STEM TONE BARĢTONE BARěLEFT-STEM TONE BARěTONE BARĖLOW ",
    "DOTTED LEFT-STEM TONE BARġTONE BARĚLEFT-STEM TONE BARĚTONE BARĐGEORGIAN NARđLOTTAL STOPĜ WITH ST",
    "ROKEđRAVE ACCENTĐHALF TRIANGULAR COLONđIGH DOTTED LEFT-STEM TONE BARĜTONE BARĕLEFT-STEM TONE BAR",
    "ĕTONE BARĐLATERAL CLICKđEFT ARROWHEADĕHALF RINGĕTACKđOW ACUTE ACCENTĔCIRCUMFLEX ACCENTĔDOTTED LE",
    "FT-STEM TONE BARěTONE BARĖWN ARROWHEADĔGRAVE ACCENTĔINVERTED EXCLAMATION MARKĔLEFT ARROWĞHEADĘ-S",
    "TEM TONE BARĔMACRONĔRIGHT ARROWHEADĖNGĔTILDEĕONE BARĔUP ARROWHEADĔVERTICAL LINEēER RIGHT CORNER ",
    "ANGLEĐMACRONđID DOTTED LEFT-STEM TONE BARěTONE BARĔLEFT-STEM TONE BARĔTONE BARēDLE DOUBLE ACUTE ",
    "ACCENTĞGRAVE ACCENTėGRAVE ACCENTĒNUS SIGNĐOPEN SHELFĐPLUS SIGNđRIMEĐRAISED COLONėDOWN ARROWėEXCL",
    "AMATION MARKėINVERTED EXCLAMATION MARKėUP ARROWđETROFLEX CLICK WITH RETROFLEX HOOKĒVERSED COMMAę",
    "GLOTTAL STOPĥ WITH STROKEđHOTIC HOOKđIGHT ARROWHEADĖHALF RINGĖTACKĐSHELFĒORT EQUALS SIGNđMALL Aė",
    "EėINėLPHAĖBė WITH HOOKėARRED OėETAėOTTOM HALF OĖCė WITH CURLėAPITAL AAĞBĞGğ WITH HOOKĞHĞIğ WITH ",
    "STROKEğNVERTED RĞLğ WITH BELTĞNĞOEĞRĞUĞYėHIėLOSED OMEGAĝREVERSED OPEN EĖDė WITH HOOKġ AND TAILĝT",
    "AILėELTAĘZH DIGRAPHėOTLESS J WITH STROKEī AND HOOKėZ DIGRAPHĠ WITH CURLĦRETROFLEX HOOKĖEėNGėSHėT",
    "HėZHĖFėENG DIGRAPHĖGė WITH HOOKėAMMAėREEK GAMMAĜPHIĖHė WITH HOOKĝSTROKEėENGĚ WITH HOOKĖI WITH ST",
    "ROKEėOTAĖJė WITH CROSSED-TAILĖKĖLė WITH BELTĝINVERTED LAZY SĝMIDDLE TILDEĝPALATAL HOOKĝRETROFLEX",
    " HOOKī AND BELTėEZHĚ WITH RETROFLEX HOOKėIGATURE OEėS DIGRAPHėZ DIGRAPHĖMė WITH HOOKĖN WITH LEFT",
    " HOOKĝRETROFLEX HOOKĖOė WITH STROKEėPEN EěOĖPėHIĖQĖRė WITH FISHHOOKĝTAILėAMS HORNėEVERSED EğGLOT",
    "TAL STOPğOPEN EĖSė WITH CURLĝHOOKėCHWAĘRIPT GėIDEWAYS UĖTė WITH PALATAL HOOKĝRETROFLEX HOOKėC DI",
    "GRAPH WITH CURLėESH DIGRAPHėHETAėOP HALF OėS DIGRAPHĠ WITH RETROFLEX HOOKėURNED AĞEĞLPHAĝHĝIĝMĞ ",
    "WITH LONG LEGĝOPEN EĝRĞ WITH HOOKĤLONG LEGĬ AND RETROFLEX HOOKĝVĝWĝYĞ WITH BELTĖUė BARĘWITH LEFT",
    " HOOKėPSILONĖVė WITH HOOKĝRIGHT HOOKĖWĖXĖYĖZė WITH CURLĝRETROFLEX HOOKđTRESS AND HIGH TONEěLOW T",
    "ONEđUPERSCRIPT HALF TRIANGULAR COLONĜTRIANGULAR COLONĐTRIANGULAR COLONđURNED COMMAĐUNASPIRATEDđP",
    " ARROWHEADēTACKđSĐVERTICAL LINEđOICINGĐYANG DEPARTING TONE MARKđIN DEPARTING TONE MARKăULO TWO S",
    "UMĂNEY BAGĆWITH WINGSą-MOUTH FACEăGOLIAN BIRGAď WITH DOUBLE ORNAMENTĕORNAMENTĊCOLONČMMAĊDIGIT EI",
    "GHTĐFIVEđOURĐNINEĐONEĐSEVENđIXĐTHREEđWOĐZEROċOUBLE BIRGA WITH ORNAMENTĊELLIPSISĊFOUR DOTSċREE VA",
    "RIATION SELECTOR FOURĢONEĢTHREEģWOċULL STOPĊINVERTED BIRGAĘ WITH DOUBLE ORNAMENTĊLETTER AĒLI GAL",
    "I AěHěNUSVARA ONEĚBALUDAĚCAĚDAĜGALGAĜMARUěDAĚHALF UğYAĚIěNVERTED UBADAMAĚKAĚNGAěNAĚPAěHAĚSSAĚTAě",
    "HREE BALUDAěTAĜHAĚUBADAMAĚVISARGA ONEĚZAěHAĒNGđBAđCHAĔ WITH TWO DOTSēIđDAđEĒEđFAđGAđHAAđIđJAđKAĒ",
    "HAđLAĒHAđMAēNCHU ALI GALI BHAġCAĢYAġDDHAĢHAġGHAġJHAġLHAġNGAġSSAġTAĢTAġZAĢHAĘFAĘIĘKAĘRAĘZHAđNAđOĒ",
    "EđPAđQAđRAđSAĒHAĒIBE ANGĖCHAĖDAĖEĖFAĖGAĘAĖHAĘAĖIėYĖJAĖKAĖPAĖRAAĖSHAĖTAėSAĖUėEĖZAėHAđTAĒODO ALI G",
    "ALI TAğZHAėNGĖBAĖCHAĖDAėZAĖEĖGAĘAĖHAAĖIĖJAėIAĖKAĖLONG VOWEL SIGNĖMAĖNIAĖOėEĖPAĖQAĖTAėSAĖUėEĖWAĖY",
    "AĒSAđUĒEđWAđYAđZAĒHIĒRAĊMANCHU COMMAđFULL STOPĊNIRUGUĊROTATED BIRGAė WITH DOUBLE ORNAMENTĝORNAME",
    "NTĊSIBE SYLLABLE BOUNDARY MARKERċWIRL BIRGAĕ WITH DOUBLE ORNAMENTěORNAMENTĊTODO SOFT HYPHENċRIPL",
    "E BIRGA WITH ORNAMENTċURNED SWIRL BIRGA WITH DOUBLE ORNAMENTĊVOWEL SEPARATORăKEYĆ FACEăOGRAM FOR",
    " EARTHčYANGĎINĄRAILĄSTABLE SYMBOLĂOD BUBBLEăN CAKEąVIEWING CEREMONYĂSQUEąITOĂTHER CHRISTMASăOR B",
    "OATĆSCOOTERąIZED WHEELCHAIRąWAYĂUNT FUJIąAINĈ BICYCLISTĉCABLEWAYĉRAILWAYăSEą FACEĆTRAPăTHĂVIE CA",
    "MERAĂYAIāRO DANDAąIGIT EIGHTĊFIVEċOURĊNINEĊONEĊSEVENċIXĊTHREEċWOĊZEROąOUBLE DANDAĄLETTER AċBAċCH",
    "UċDAčIċEČAċHAIčOċKEAAEČHAIČOċLAčNċMAEMČIMċNGIČINċOČLČOċPAČHIċRIČOċSHIċTAČEKČHEAċWAċYOāUCH GREATE",
    "R-THANąLESS-THANĂLTANI LETTER AďBAĐHAďCAĐHAďDAĐDAđDAđHAĐHAďEďGAĐHAďHAďIďJAĐJAďKAĐHAďLAďMAďNAĐNAĐ",
    "YAďPAĐHAďRAĐHAĐRAďSAďTAĐHAĐTAđHAďUďVAďYAĈSECTION MARKĄIMAPąPLE MUSICAL NOTESćICATION SIGNē IN DO",
    "UBLE CIRCLEėLEFT HALF CIRCLEėRIGHT HALF CIRCLEėTRIANGLEĔWITH DOT ABOVEęUNDERBARďXąSETĈ MULTIPLIC",
    "ATIONĉUNIONĂSHROOMăIC FLAT SIGNĆNATURAL SIGNĆSHARP SIGNąAL KEYBOARDĐ WITH JACKSĈNOTEĈSCOREĉYMBOL",
    " ARPEGGIATO DOWNĚUPďBEGIN BEAMĕPHRASEĕSLURĕTIEĐRACEēKETđEATH MARKĒVEēISĕ RESTďC CLEFĐAESURAĐIRCL",
    "E X NOTEHEADĐLIMACUSĒVISđUSTER NOTEHEAD BLACKĠWHITEĐODAđMBINING ACCENTğ-STACCATOĚUGMENTATION DOT",
    "ęBENDęDOITěUBLE TONGUEěWN BOWęFLAG-1Ğ2Ğ3Ğ4Ğ5ěIPęHARMONICęLOUREęMARCATOĠ-STACCATOęRIPęSMEARĚNAP P",
    "IZZICATOĚPRECHGESANG STEMĚTACCATISSIMOĠOěEMęTENUTOĚREMOLO-1ġ2ġ3ěIPLE TONGUEęUP BOWĒMON TIMEĐRESC",
    "ENDOđOIXĐUT TIMEďDA CAPOđL SEGNOđMPē ALLđSHED BARLINEĐECRESCENDOđGREE SLASHĐOUBLE BARLINEĖFLATĖS",
    "HARPĐRUM CLEF-1ę2ďEIGHTH NOTEĖRESTĐND BEAMēOF STIMMEēPHRASEēSLURēTIEďF CLEFĕ OTTAVA ALTAĝBASSAĐE",
    "RMATAĖ BELOWĐINAL BARLINEĒGERED TREMOLO-1Ġ2Ġ3đVE-LINE STAFFĐLAT DOWNĔUPĐORTEđUR-LINE STAFFĔSTRIN",
    "G FRETBOARDĐUSA BLACKĔWHITEďG CLEFĕ OTTAVA ALTAĝBASSAĐLISSANDO DOWNęUPĐRACE NOTE NO SLASHĚSLASHđ",
    "EGORIAN C CLEFęF CLEFďHALF NOTEĔPEDAL MARKĔRESTđUPTSTIMMEďINVERTED TURNďKIEVAN C CLEFĖEIGHTH NOT",
    "E STEM DOWNħUPėND OF PIECEĖFINAL NOTEėLAT SIGNĖHALF NOTEĖQUARTER NOTE STEM DOWNĨUPĖRECITATIVE MA",
    "RKĖWHOLE NOTEĐORONďLEFT REPEAT SIGNĐONGAĔ IMPERFECTA RESTĕPERFECTA RESTďMAXIMAĐEZZOĐINIMAĕ BLACK",
    "ĖRESTĐOON NOTEHEAD BLACKĝWHITEĐULTI RESTĔPLE MEASURE RESTďNATURAL DOWNėUPĐEBENSTIMMEĐOTEHEAD BLA",
    "CKĐULL NOTEHEADďONE HUNDRED TWENTY-EIGHTH NOTEĩRESTĒ-LINE STAFFĐRNAMENT STROKE-1Ġ0Ġ1ğ2ğ3ğ4ğ5ğ6ğ7",
    "ğ8ğ9ĐTTAVA ALTAĖBASSAďPARENTHESIS NOTEHEADĐEDAL MARKĕUP MARKđS SUBPUNCTISĐIANOĐLUS NOTEHEADĐODAT",
    "USđRRECTUSĘ FLEXUSďQUARTER NOTEėRESTėTONE FLATĜSHARPđINDICESIMA ALTAĜBASSAďREPEAT DOTSĕED FIGURE",
    "-1ğ2ğ3đVERSE FINAL BARLINEĐIGHT REPEAT SIGNđNFORZANDOďSCANDICUSĘ FLEXUSĐEGNOđMIBREVIS BLACKĚREST",
    "ĚWHITEēMINIMA BLACKĚRESTĚWHITEĐHARP DOWNĕUPđORT BARLINEĐINGLE BARLINEđX-LINE STAFFēSTRING FRETBO",
    "ARDĒTEENTH NOTEęRESTēY-FOURTH NOTEĜRESTĐORIĐQUARE BĖNOTEHEAD BLACKğWHITEĐUBITOďTEMPUS IMPERFECTU",
    "M CUM PROLATIONE IMPERFECTAĻ DIMINUTION-1Ň2Ň3ıPERFECTAĖPERFECTUM CUM PROLATIONE IMPERFECTAįPERFE",
    "CTAķ DIMINUTION-1ĐHIRTY-SECOND NOTEĝRESTđREE-LINE STAFFĐORCULUSė RESUPINUSĐRđIANGLE NOTEHEAD DOW",
    "N BLACKĦWHITEġLEFT BLACKĦWHITEġRIGHT BLACKħWHITEġUP BLACKĤRIGHT BLACKĪWHITEĤWHITEė-ROUND NOTEHEA",
    "D DOWN BLACKĬWHITEĐURNē SLASHĔUPĐWO-LINE STAFFďVIRGAĐOID NOTEHEADďWHOLE NOTEĕRESTĐITH FINGERNAIL",
    "SďX NOTEHEADďZāVSāWāYANMAR CONSONANT SIGN MEDIAL HAĞRAĞWAĞYAĘON MEDIAL LAĢMAĢNAėSHAN MEDIAL WAĈD",
    "IGIT EIGHTĎFIVEďOURĎNINEĎONEĎSEVENďIXĎTHREEďWOĎZEROĈLETTER AĐITON RAĐUďBAĐHAďCAĐHAďDAĐDAđHAĐHAďE",
    "ĐASTERN PWO KAREN GHWAġNNAġYWAďGAĐHAĐREAT SAďHAďIĐIďJAĐHAďKAĐHAĒMTI CAėHAĖDDAĘHAėHAĖFAĖGAĖHAėHAĖ",
    "JAėHAĖLLAĖNAėYAĖRAĖSAĖTTAĘHAĖXAĖZAďLAĐLAďMAĐON BBAĕEēEēJHAēNGAďNAĐGAĐNAđYAĐYAďOďPAĐHAďRAĐUMAI PA",
    "LAUNG FAďSAĐGAW KAREN SHAĐHAĒN AĔBAĕHAĔCAĕHAĔDAĔFAĔGAĕHAĔHAĔJHAĔKAĕHAĔNAĕNAĕYAĔPHAĔTHAĔZAđWE PAL",
    "AUNG CHAĜSHAĐSAďTAđI LAING BAĚHAęDAĚDAěHAĚHAęFAęGAĚHAęJAĚHAęLLAęNNAĚYAĐHAĐTAđHAďUĐUďVOCALIC LĘLė",
    "RĘRďWAĐESTERN PWO KAREN PWAġTHAďYAĉOGOGRAM KHAMTI HMĘOAYĘQNĈMODIFIER LETTER KHAMTI REDUPLICATION",
    "ĘSHAN REDUPLICATIONĈSHAN DIGIT EIGHTēFIVEĔOURēNINEēONEēSEVENĔIXēTHREEĔWOēZEROĉIGN ANUSVARAĎSATčD",
    "OT BELOWčKHAMTI TONE-1ę3čLITTLE SECTIONčPAO KAREN TONEčRUMAI PALAUNG TONE-5čSECTIONĎHAN COUNCIL ",
    "EMPHATIC TONEĚTONE-2ğ3ĒSAWĒTONE-2ė3ė5ė6čTAI LAING TONE-2Ĝ5čVIRAMAďSARGAčWESTERN PWO KAREN TONE-1",
    "Ĥ2Ĥ3Ĥ4Ĥ5ĉYMBOL AFOREMENTIONEDĐITON EXCLAMATIONĕONEĕTWOďCOMPLETEDďGENITIVEďLOCATIVEďSHAN EXCLAMAT",
    "IONĔONEĈTAI LAING DIGIT EIGHTĘFIVEęOURĘNINEĘONEĘSEVENęIXĘTHREEęWOĘZEROĉONE MARK SGAW KAREN HATHI",
    "ĝKE PHOĈVOWEL SIGN AAĔIĕTON AĚIēEĔ ABOVEēGEBA KAREN IēIĔIēKAYAH EEęOEęUēMON IIėOēSGAW KAREN EUĔH",
    "AN AAĘEę ABOVEĘFINAL YēTALL AAēUĔUēVOCALIC LĜLěRĜRēWESTERN PWO KAREN EUĥUEĀN-ARY CIRCLED DOT OPE",
    "RATORĎPLUS OPERATORĎTIMES OPERATORćOPRODUCTĆINTERSECTIONĆLOGICAL ANDĎORĆPRODUCTĆSQUARE INTERSECT",
    "ION OPERATORčUNION OPERATORćUMMATIONĆTIMES OPERATORĆUNIONċ OPERATOR WITH DOTĚPLUSĆWHITE VERTICAL",
    " BARāABATAEAN CRUCIFORM NUMBER FOURĊLETTER ALEPHĒYINđBETHđDALETHđFINAL ALEPHėBETHėHEėKAPHėLAMEDH",
    "ėMEMėNUNėSHINėYODHđGIMELđHEēTHđKAPHđLAMEDHđMEMđNUNđPEđQOPHđRESHđSADHEēMEKHĒHINđTAWĒETHđWAWđYODHđ",
    "ZAYINĊNUMBER FIVEĒOURđONEĔ HUNDREDđTENĒHREEĒWENTYēOăLAĂIL POLISHăRA SIGNĂKĂME BADGEĂNDĄINAGARI H",
    "EADSTROKEČLETTER AĔAĔIĔUēBAĔHAēCAĔHAēDAĔDAĕHAĔHAēEēGAĔHAēHAēIĔIēJAĔHAēKAĔHAēLAĔLAēMAēNAĔGAĔNAĔYA",
    "ēOēPAĔHAēRAĔRAēSAĔHAĔSAēTAĔHAĔTAĕHAēUĔUēVAĔOCALIC RĜRēYAČSIGN ANUSVARAĒVAGRAHAđSIDDHAMđVIRAMAēSA",
    "RGAČVOWEL SIGN AAĘIĘUėEėIĘIėOėPRISHTHAMATRA EėUĘUėVOCALIC RĠRĂRROW NO-BREAK SPACEĂTIONAL DIGIT S",
    "HAPESĉPARKĂUSEATED FACEĂZAR AMULETāBHĂSPāECKTIEĂGATED DOUBLE VERTICAL BAR DOUBLE RIGHT TURNSTILE",
    "ąIVE ACKNOWLEDGEĉCIRCLED DIGIT ZEROđLATIN CAPITAL LETTER AĦBĦCĦDĦEĦFĦGĦHĦIĦJĦKĦLĦMĦNĦOĦPĦQĦRĦSĦT",
    "ĦUĦVĦWĦXĦYĦZđNUMBER EIGHTEENęLEVENĘFIFTEENęOURTEENĘNINETEENĘSEVENTEENęIXTEENĘTHIRTEENęWELVEěNTYđ",
    "SQUAREđTRIANGLEĉDIAGONAL CROSSĒDIAMONDĒMIDDLE RIGHT TO LOWER CENTREĉSQUARED ABđCROSS MARKđICđLAT",
    "IN CAPITAL LETTER AĦBĦCĦDĦEĦFĦGĦHĦIĦJĦKĦLĦMĦNĦOĦPĦQĦRĦSĦTĦUĦVĦWĦXĦYĦZđPAđQUESTION MARKđSAđWCĂITH",
    "ER A SUBSET OF NOR EQUAL TOČPERSET OF NOR EQUAL TOĉPPROXIMATELY NOR ACTUALLY EQUAL TOĈGREATER-TH",
    "AN NOR EQUAL TOĜIVALENT TOęLESS-THANĈLESS-THAN NOR EQUAL TOęIVALENT TOĖGREATER-THANĂLĂPTUNEć FOR",
    "M TWOĂRD FACEĂSSUSăT WITH EGGSĄING DOLLSĂUTERĄRAL CHESS BISHOPĔ ROTATED NINETY DEGREESĝTWO HUNDR",
    "ED SEVENTY DEGREESĎEQUIHOPPERĘ ROTATED NINETY DEGREESĎKINGĒ ROTATED NINETY DEGREESěTWO HUNDRED S",
    "EVENTY DEGREESďNIGHTĔ ROTATED FORTY-FIVE DEGREESĝNINETY DEGREESĝONE HUNDRED THIRTY-FIVE DEGREESĝ",
    "THREE HUNDRED FIFTEEN DEGREESĞWO HUNDRED SEVENTY DEGREESĩTWENTY-FIVE DEGREESĎPAWNĒ ROTATED NINET",
    "Y DEGREESěTWO HUNDRED SEVENTY DEGREESĎQUEENē ROTATED NINETY DEGREESĜTWO HUNDRED SEVENTY DEGREESĎ",
    "ROOKĒ ROTATED NINETY DEGREESěTWO HUNDRED SEVENTY DEGREESĎTURNED BISHOPĕKINGĖNIGHTĕPAWNĕQUEENĕROO",
    "KĈFACEĂW LINEĄMOON SYMBOLĉWITH FACEĄSHEQEL SIGNĄTAI LUE DIGIT EIGHTĒFIVEēOURĒNINEĒONEĒSEVENēIXĒT",
    "HREEēWOĒZEROČLETTER FINAL BęDęKęMęNĚGęVēHIGH BAĘDAĘFAĘHAĘKAęVAĘLAĘMAĘNAęGAĘPAęHAĘQAĘSAęUAĘTAęHAę",
    "SAĘVAĘXAęVAĘYAēLOW BAėDAėFAėHAėKAĘVAėLAėMAėNAĘGAėPAĘHAėQAėSAĘUAėTAĘHAĘSAėVAėXAĘVAėYAČSIGN LAEĔVČ",
    "THAM DIGIT ONEčONE MARK-1Ė2ČVOWEL SIGN AAęYĘEĘYėEėIIĘYėOĘAęYĘYėUĘEęYĘUĘYėVOWEL SHORTENERăA ABBRE",
    "VIATION SIGNąCOMMAąDANDAĆIGIT EIGHTċFIVEČOURċNINEċONEċSEVENČIXċTHREEČWOċZEROĆOUBLE COMMAČDANDAąG",
    "AP FILLERąINSERTION SIGNąLETTER AčAčIčUČBAčHAČCAčHAČDAčDAĎHAčHAČEČGAčHAČHAČIčIČJAčHAČKAčHAČLAčHA",
    "ČMAčHAČNAčGAĎHAčHAčNAčYAĎHAČOČPAčHAČRAčHAČSAčHAčSAČTAčHAčTAĎHAČUčUČVEDIC ANUSVARAčOCALIC LĕLĔRĕR",
    "ČWAČYAąOMąPLACEHOLDER MARKąSANDHI MARKĆIDDHIćGN ANUSVARAċVAGRAHAĊCANDRABINDUĊFINAL ANUSVARAĊJIHV",
    "AMULIYAĊNUKTAĊUPADHMANIYAĊVIRAMAČSARGAąVOWEL SIGN AAđIđUĐEĐIđIĐOĐUđUĐVOCALIC LęLĘRęRăLINE LEFTĈR",
    "IGHTăSPAPERĂXT LINEąPAGEāIGHT WITH STARSĂNJAāKO COMBINING DOUBLE DOT ABOVEĎLONG DESCENDING TONEē",
    "HIGH TONEēLOW TONEēRISING TONEĎNASALIZATION MARKĎSHORT HIGH TONEĔLOW TONEĔRISING TONEćMAĄDANTAYA",
    "LANąIGIT EIGHTĊFIVEċOURĊNINEĊONEĊSEVENċIXĊTHREEċWOĊZEROąOROME SIGNĄEXCLAMATION MARKĄHIGH TONE AP",
    "OSTROPHEĄLAJANYALANąETTER AċBAċCHAċDAčGBASINNAċEČEċFAċGBAċHAċIċJAČONA CHAĐJAĐRAċKAċLAċMAċNČAč WO",
    "LOSOČYAĎ WOLOSOċOČOċPAċRAČRAċSAċTAċUċWAċYAąOW TONE APOSTROPHEĄSYMBOL GBAKURUNENċOO DENNENĄTAMAN "]

/-- Part 5 of the front-coded names. -/
def namesPart5 : String := String.join [
    "SIGNāLāNBSPāO BICYCLESĄREAK HEREăENTRYĈ SIGNăMOBILE PHONESăONE UNDER EIGHTEEN SYMBOLăPEDESTRIANS",
    "ĄIRACYăSMOKING SYMBOLĂ-BREAK SPACEĂMINAL DIGIT SHAPESĄSMA SIGNĂN-BREAKING HYPHENĄPOTABLE WATER S",
    "YMBOLăFORKINGĂRăDIC MARK SIGNăMAL SUBGROUP OFĒ OR EQUAL TOăTH EAST AND SOUTH WEST ARROWČRROWĐ AN",
    "D SOUTH EAST ARROWđCROSSING NORTH WEST ARROWĚSOUTH EAST ARROWđWITH HOOKċBLACK ARROWċDOUBLE ARROW",
    "ċPOINTING BUDĔLEAFĔVINE LEAFċSANS-SERIF ARROWċTRIANGLE-HEADED ARROWĠ TO BARċWHITE ARROWĆINDIC FR",
    "ACTION ONE EIGHTHęHALFęQUARTERęSIXTEENTHĕTHREE QUARTERSěSIXTEENTHSČPLACEHOLDER MARKČQUANTITY MAR",
    "KďRTER MARKČRUPEE MARKĆWEST AND SOUTH EAST ARROWČRROWĐ AND NORTH EAST ARROWđCROSSING NORTH EAST ",
    "ARROWđTO CORNERĔLONG BARđWITH HOOKċBLACK ARROWċDOUBLE ARROWċPOINTING BUDĔLEAFĔVINE LEAFċSANS-SER",
    "IF ARROWċTRIANGLE-HEADED ARROWĠ TO BARċWHITE ARROWąEAST-POINTING AIRPLANEĂSEĂT A SUBSET OFĈPERSE",
    "T OFąLMOST EQUAL TOąN ELEMENT OFąSYMPTOTICALLY EQUAL TOĄCHECK MARKĄEQUAL TOćIVALENT TOĄGREATER-T",
    "HANĄIDENTICAL TOĄLESS-THANĄNORMAL SUBGROUP OFĖ OR EQUAL TOĄPARALLEL TOĄSIGNąQUARE IMAGE OF OR EQ",
    "UAL TOċORIGINAL OF OR EQUAL TOĄTILDEąRUEăCHED LEFT SEMICIRCLE WITH THREE DOTSĉOWER RIGHT-SHADOWE",
    "D WHITE RIGHTWARDS ARROWĈRIGHT SEMICIRCLE WITH THREE DOTSĈUPPER RIGHT-SHADOWED WHITE RIGHTWARDS ",
    "ARROWăEĄ PADćGEĄBOOKĈ WITH DECORATIVE COVERāULăLĂMBER EIGHTEEN FULL STOPĈLEVEN FULL STOPćFIFTEEN",
    " FULL STOPĈOURTEEN FULL STOPćNINETEEN FULL STOPćSEVENTEEN FULL STOPĈIGNĉXTEEN FULL STOPćTEN FULL",
    " STOPĈHIRTEEN FULL STOPĈWELVE FULL STOPĊNTY FULL STOPăERO SIGNĂSHU CHARACTER-1B170Ĕ1Ĕ2Ĕ3Ĕ4Ĕ5Ĕ6Ĕ7",
    "Ĕ8Ĕ9ĔAĔBĔCĔDĔEĔFē80Ĕ1Ĕ2Ĕ3Ĕ4Ĕ5Ĕ6Ĕ7Ĕ8Ĕ9ĔAĔBĔCĔDĔEĔFē90Ĕ1Ĕ2Ĕ3Ĕ4Ĕ5Ĕ6Ĕ7Ĕ8Ĕ9ĔAĔBĔCĔDĔEĔFēA0Ĕ1Ĕ2Ĕ3Ĕ4Ĕ5Ĕ",
    "6Ĕ7Ĕ8Ĕ9ĔAĔBĔCĔDĔEĔFēB0Ĕ1Ĕ2Ĕ3Ĕ4Ĕ5Ĕ6Ĕ7Ĕ8Ĕ9ĔAĔBĔCĔDĔEĔFēC0Ĕ1Ĕ2Ĕ3Ĕ4Ĕ5Ĕ6Ĕ7Ĕ8Ĕ9ĔAĔBĔCĔDĔEĔFēD0Ĕ1Ĕ2Ĕ3Ĕ4",
    "Ĕ5Ĕ6Ĕ7Ĕ8Ĕ9ĔAĔBĔCĔDĔEĔFēE0Ĕ1Ĕ2Ĕ3Ĕ4Ĕ5Ĕ6Ĕ7Ĕ8Ĕ9ĔAĔBĔCĔDĔEĔFēF0Ĕ1Ĕ2Ĕ3Ĕ4Ĕ5Ĕ6Ĕ7Ĕ8Ĕ9ĔAĔBĔCĔDĔEĔFĒ200Ĕ1Ĕ2",
    "Ĕ3Ĕ4Ĕ5Ĕ6Ĕ7Ĕ8Ĕ9ĔAĔBĔCĔDĔEĔFē10Ĕ1Ĕ2Ĕ3Ĕ4Ĕ5Ĕ6Ĕ7Ĕ8Ĕ9ĔAĔBĔCĔDĔEĔFē20Ĕ1Ĕ2Ĕ3Ĕ4Ĕ5Ĕ6Ĕ7Ĕ8Ĕ9ĔAĔBĔCĔDĔEĔFē30Ĕ",
    "1Ĕ2Ĕ3Ĕ4Ĕ5Ĕ6Ĕ7Ĕ8Ĕ9ĔAĔBĔCĔDĔEĔFē40Ĕ1Ĕ2Ĕ3Ĕ4Ĕ5Ĕ6Ĕ7Ĕ8Ĕ9ĔAĔBĔCĔDĔEĔFē50Ĕ1Ĕ2Ĕ3Ĕ4Ĕ5Ĕ6Ĕ7Ĕ8Ĕ9ĔAĔBĔCĔDĔEĔFē",
    "60Ĕ1Ĕ2Ĕ3Ĕ4Ĕ5Ĕ6Ĕ7Ĕ8Ĕ9ĔAĔBĔCĔDĔEĔFē70Ĕ1Ĕ2Ĕ3Ĕ4Ĕ5Ĕ6Ĕ7Ĕ8Ĕ9ĔAĔBĔCĔDĔEĔFē80Ĕ1Ĕ2Ĕ3Ĕ4Ĕ5Ĕ6Ĕ7Ĕ8Ĕ9ĔAĔBĔCĔDĔE",
    "ĔFē90Ĕ1Ĕ2Ĕ3Ĕ4Ĕ5Ĕ6Ĕ7Ĕ8Ĕ9ĔAĔBĔCĔDĔEĔFēA0Ĕ1Ĕ2Ĕ3Ĕ4Ĕ5Ĕ6Ĕ7Ĕ8Ĕ9ĔAĔBĔCĔDĔEĔFēB0Ĕ1Ĕ2Ĕ3Ĕ4Ĕ5Ĕ6Ĕ7Ĕ8Ĕ9ĔAĔBĔCĔ",
    "DĔEĔFēC0Ĕ1Ĕ2Ĕ3Ĕ4Ĕ5Ĕ6Ĕ7Ĕ8Ĕ9ĔAĔBĔCĔDĔEĔFēD0Ĕ1Ĕ2Ĕ3Ĕ4Ĕ5Ĕ6Ĕ7Ĕ8Ĕ9ĔAĔBĔCĔDĔEĔFēE0Ĕ1Ĕ2Ĕ3Ĕ4Ĕ5Ĕ6Ĕ7Ĕ8Ĕ9ĔAĔB",
    "ĔCĔDĔEĔFēF0Ĕ1Ĕ2Ĕ3Ĕ4Ĕ5Ĕ6Ĕ7Ĕ8Ĕ9ĔAĔBĆITERATION MARKĂT AND BOLTāYIAKENG PUACHUE HMONG CIRCLED CAėDIG",
    "IT EIGHTĝFIVEĞOURĝNINEĝONEĝSEVENĞIXĝTHREEĞWOĝZEROėLETTER AğAĞCAĞDAğLAĞEğEĞFAĞGAĞHAĠHĞIĞKAĞLAĞMAğ",
    "LAĞNAğCAğKAğPAĠLAğQAğRAğTAĠSAĠXAğYAĞOğOĞPAğLAĞQAĞRAğRAĞSAĞTAğSAğXAĞUĞVAĞWĞXAğYAĞYAĞZAĘOGOGRAM NY",
    "AJėSIGN FOR ANIMALĠINVERTEBRATEĠLOCATIONĠPERSONĠTHINGĜXW XWĘYLLABLE LENGTHENERėTONE-BĜDĜGĜJĜMĜSĜ",
    "VĀOBJECT REPLACEMENT CHARACTERĂLIQUE ANGLE OPENING DOWNĖUPĈHYPHENĂSERVER EYE SYMBOLāCR AMOUNT OF",
    " CHECKĄBELT BUCKLEąOW TIEąRANCH BANK IDENTIFICATIONĄCHAIRąUSTOMER ACCOUNT NUMBERĄDASHąOUBLE BACK",
    "SLASHĄFORKĄHOOKĄINVERTED FORKĂTAGONAL SIGNăOPUSāDENāFFICE BUILDINGāGHAM FEATHER MARKĆLETTER AILM",
    "čBEITHčCEIRTĎOLLčDAIRčEABHADHďDHADHďMHANCHOLLčFEARNčGORTčIFINĎODHADHčLUISčMUINčNGEADALĎIONčONNĎR",
    "čPEITHčRUISčSAILĎTRAIFčTINNEčUATHĎILLEANNĎRĆREVERSED FEATHER MARKĆSPACE MARKĂONEKāHM SIGNāIL DRU",
    "MāK HAND SIGNāL CHIKI AHADĉDIGIT EIGHTďFIVEĐOURďNINEďONEďSEVENĐIXďTHREEĐWOďZEROĉGAAHLAA TTUDDAAG",
    "ĉLETTER AAJĒKĒMĒWđGđLđNGđTĐEDDđNđPđRRĐIHđNYđRđSĐLAĒAđEđIđOđUĐOBđHđTTđVĐUCđDđNNđYĉMU TTUDDAGċ-GAA",
    "HLAA TTUDDAAGĉPHAARKAAĊUNCTUATION DOUBLE MUCAADĕMUCAADĉRELAAĂD CHINESE HOOK MARKČITERATION MARKĄ",
    "HUNGARIAN CAPITAL LETTER AĞAĞKĞMBĞNDĝCLOSE EĝEĞBĞCğHğSĞDĞEĞFĞGğYĞHĞJĞKĞLğYĞMğPĞNğCğTĠ-SHAPED SIG",
    "NğYĞPĞRĞSğZĞTğYĞVĞZğSĝIĞIĝNIKOLSBURG OEĨUEĝOĞEEĞOĝRUDIMENTA OEħUEĝSHORT ERĝUĞNKĞSĞUĎNUMBER FIFTY",
    "ėVEĕONEĘ HUNDREDęTHOUSANDĕTENĎSMALL LETTER AĜAĜKĜMBĜNDěCLOSE EěEĜBĜCĝHĝSĜDĜEĜFĜGĝYĜHĜJĜKĜLĝYĜMĝP",
    "ĜNĝCĝTĞ-SHAPED SIGNĝYĜPĜRĜSĝZĜTĝYĜVĜZĝSěIĜIěNIKOLSBURG OEĦUEěOĜEEĜOěRUDIMENTA OEĥUEěSHORT ERěUĜN",
    "KĜSĜUĄITALIC LETTER AĒBEĒCHEĒDEĒEēFēKSēLēMēNēRĔSēSĔHĔSĒHEĒIēIĒKAēEēHEēUĒNORTHERN TSEĒOĒPEēHEĒSHE",
    "ēOUTHERN TSEĒTEēHEĒUēUĒVEĒYEĒZEċNUMERAL FIFTYĕVEēONEēTENĄKEYĄNORTH ARABIAN LETTER AINĚLEFęBEHęDA",
    "DěLęES-1Ĝ2Ĝ3ęFEHęGEEMĚHAINęHAHĚEHęKAFĚHAHęLAMęMEEMęNOONęQAFęREHęSADęTAHĚEHĚHALěEHęWAWęYEHęZAHěIN",
    "ĒNUMBER ONEęTENĚWENTYĄPERMIC LETTER ANĒBURĒCHERYĒDOIēZHOIĔITAĒEēFĒGAIĒHAĒIēAēEĒKOKEĒLEIĒMENOEĒNE",
    "NOEĒOēOĒPEEIĒREIĒSHCHOOIĔOOIēIIĒTAIēSIUĒUĒVERēOOIĒYAĔTēERĕIĕUēRYēUĒZATAēHOIćSIAN NUMBER HUNDREDē",
    "ONEēTENĔWENTYĕOČSIGN AĒURAMAZDAAě-2ěHAđBAēGAĒUUMISHđCAđDAēHYAAUSHĚ-2ĒIĒUđFAđGAĒUđHAđIđJAĒIđKAĒUđ",
    "LAđMAĒIĒUđNAĒUđPAđRAĒUđSAĒHAĒSAđTAĒHAĒUđUđVAĒIđXAĒSHAAYATHIYAđYAđZAČWORD DIVIDERĈONAL COMPUTERĄS",
    "OGDIAN FRACTION ONE HALFČLETTER ALEPHĕTERNATE AYINĔYINēBETHēFINAL ALEPHęBETHęHEęNUNĜ WITH VERTIC",
    "AL TAILęSADHEĞ WITH VERTICAL TAILęTAWĜ WITH VERTICAL TAILēGIMELēHEĕTHēKAPHēLAMEDHēMEMēNUNēPEēRES",
    "H-AYIN-DALETHēSADHEĕMEKHĔHINēTAWēWAWēYODHēZAYINčIGATURE AYIN-DALETHČNUMBER FIVEĔOURēONEĖ HUNDRED",
    "ēTENĔHIRTYĕREEĔWENTYĕOĆUTH ARABIAN LETTER ALEFĚYNęBETHęDALETHĚHADHEĜLETHęFEęGHAYNĚIMELęHEěTHęKAP",
    "HĚHETHęLAMEDHęMEMęNUNęQOPHęRESHęSADHEěMEKHěTĚHINęTAWĚETHĚHAWěETHęWAWęYODHęZAYNĒNUMBER FIFTYęONEĕ",
    "ERIC INDICATORĄTURKIC LETTER ORKHON AĚBĚDĚEBěDěGěKěLěNěRěSěTěYĚGĚLĚNĚQĚRĚSěHĚTĚYęBASHęECĚLTĚMĚNC",
    "ěGěTěYĚPĚSHĚZęIĚCĚQęOĚEěKĚPĚQĚTĒYENISEI AěBěDěEĜBĜGĜKĜNĝGĜTĜYěGěLěNGěQěRěSHěTěYĚEěCěNCĜTĜYěSHěZĚ",
    "IěQĚOEĜKěQĄUYGHUR COMBINING DOT ABOVEęBELOWĕTWO DOTS ABOVEĞBELOWċLETTER ALEPHĒBETHĒFINAL HETHĒGI",
    "MEL-HETHĒKAPHĒLAMEDHēESHĒMEMĒNUNĒPEĒRESHĒSADHEĔMEKHēHINĒTAWĒWAWĒYODHĒZAYINċPUNCTUATION BARėFOUR ",
    "DOTSėTWO BARSěDOTSăER ADULTĆMANĆWOMANĂIVEāM SYMBOLāN WITH EXCLAMATION MARK WITH LEFT RIGHT ARROW",
    " ABOVEĂCOMING AUTOMOBILEĉBUSĉFIRE ENGINEĉPOLICE CARĉTAXIĂE BUTTON MOUSEĄDOT LEADERĈOVER TWO DOTS",
    " PUNCTUATIONă-PIECE SWIMSUITĂIONāPEN BOOKćXąCENTRE ASTERISKČBLACK STARČCROSSČTEARDROP-SPOKED AST",
    "ERISKąFILE FOLDERĆOLDERąHANDS SIGNąLOCKąMAILBOX WITH LOWERED FLAGĒRAISED FLAGąSUBSETćPERSETĄ-CIR",
    "CUIT-OUTPUT H-TYPE SYMBOLĔL-TYPE SYMBOLąOUTLINED RIGHTWARDS ARROWăRATING SYSTEM COMMANDĂHIUCHUSĂ",
    "POSITIONĂTICAL DISCČ ICONĄON KEYāR WITH DOT INSIDEĂANGE BOOKćHEARTąUTANĂIGINAL OFăYA AI LENGTH M",
    "ARKćU LENGTH MARKĆDIGIT EIGHTČFIVEčOURČNINEČONEČSEVENčIXČTHREEčWOČZEROĆFRACTION ONE EIGHTHēHALFē",
    "QUARTERēSIXTEENTHďTHREE QUARTERSĕSIXTEENTHSĆISSHARĆLETTER AĎAĎIĎUčBAĎHAčCAĎHAčDAĎDAďHAĎHAčEčGAĎH",
    "AčHAčIĎIčJAĎHAčKAĎHAčLAĎLAčMAčNAĎGAĎNAĎYAčOčPAĎHAčRAĎHAĎRAčSAĎHAĎSAčTAĎHAĎTAďHAčUĎUčVAĎOCALIC LĖ",
    "LĕRĖRčWAčYAĎYAĆSIGN ANUSVARAČVAGRAHAċCANDRABINDUċNUKTAċOVERLINEċVIRAMAčSARGAĆVOWEL SIGN AAĒIĒUđE",
    "đIĒIđOđUĒUđVOCALIC LĚLęRĚRĂNATE LEFT PARENTHESISćRIGHT PARENTHESISĂTHODOX CROSSāSAGE CAPITAL LET",
    "TER AĖHĖIėNĕBRAĕCHAĕDHAĕEĖHCHAėKAėPAėTAĘSAĖINĕGHAĕHAĖYAĕIĕKAĖHAĖYAĕLAĕMAĕNAĕOĖINĕPAĕSAĖHAĕTAĖSAė",
    "HAĕUĕWAĕZAĖHAĆSMALL LETTER AĔHĔIĕNēBRAēCHAēDHAēEĔHCHAĕKAĕPAĕTAĖSAĔINēGHAēHAĔYAēIēKAĔHAĔYAēLAēMAē",
    "NAēOĔINēPAēSAĔHAēTAĔSAĕHAēUēWAēZAĔHAĂCĂMANYA DIGIT EIGHTĎFIVEďOURĎNINEĎONEĎSEVENďIXĎTHREEďWOĎZER",
    "OĈLETTER AĐAĐLEFďBAďCAYNďDEELĐHAďEĐEďFAďGAďHAďIďJAďKAAFĐHAďLAANďMIINďNUUNďOĐOďQAAFďRAďSAĐHIINďTA",
    "ďUďWAWďXAďYAāTTERăOMAN SIYAQ ALTERNATE NUMBER EIGHTğFIVEĠOURģ HUNDREDğNINEğSEVENĠIXĢ HUNDREDğTEN",
    "Ģ THOUSANDĠHREEĠWOĢ THOUSANDĎFRACTION ONE HALFěSIXTHĎMARRATANĎNUMBER EIGHTĚ HUNDREDěTHOUSANDĚYě ",
    "THOUSANDĕFIFTYĚ THOUSANDėVEę HUNDREDĚTHOUSANDĖORTYĚ THOUSANDėURę HUNDREDĚTHOUSANDĕNINEę HUNDREDĚ",
    "THOUSANDęTYě THOUSANDĕONEĘ HUNDREDęTHOUSANDĕSEVENĚ HUNDREDěTHOUSANDĚTYĜ THOUSANDĖIXĘ HUNDREDęTHO",
    "USANDĘTYĚ THOUSANDĕTENĘ THOUSANDĖHIRTYě THOUSANDėREEĚ HUNDREDěTHOUSANDĖWENTYě THOUSANDėOĘ HUNDRE",
    "DęTHOUSANDāUNCE SIGNĂTBOX TRAYăLINED BLACK STARĉGREEK CROSSĉLATIN CROSSĉWHITE STARāVERHEATED FAC",
    "EĄLAPćPING BLACK SQUARESČWHITE AND BLACK SQUARESĒSQUARESąINEāWLāXāYSTERĀPACKAGEĂDăDING CHARACTER",
    "ĂGEĄ FACING UPąWITH CIRCLED TEXTċURLĄRĄSăODAĂHAWH HMONG CLAN SIGN FAJėHAMęWJėKHABĘOOĘWMėLAUJĘISė",
    "MUASėPHABėTHOJĘSABęHEEJęWBėVAJĘWJėXYOOJėYAJĘEEGĎONSONANT AUėCAUĘHAUėHAUĘLAUĘNAUėLAUėMAUėNAUĘCHAU",
    "ĘKAUĘLAUĘTHAUęSAUėPLHAUėQHAUėRAUėVAUėXAUėYAUčDIGIT EIGHTēFIVEĔOURēNINEēONEēSEVENĔIXēTHREEĔWOēZER",
    "OčMARK CIM HOMĖKESėHAVĖSOėUAMĖTAUMėUBčNUMBER HUNDRED MILLIONSěSĔMILLIONSĔTEN BILLIONSĘTHOUSANDSė",
    "SĕRILLIONSčSIGN AVĒCIM CHEEMėUAM TSHOOJĖHAIS LUS NTOG NTOGĖNRES TOSĖPUB DAWBĖTSOV ROGėXWVĚ CHWVĒ",
    "HLIēNUBĒIB YAMĒLOSĒMEEJ SUABėTSEEBēUSĒNQIGēTUJĒTAUēHIRD-STAGE HLIēXHEEJ CEEVĒVOS FEEMĖLUBĖNRUAĖS",
    "EEVĖTHIABĘOMėSHAB CEEBĒXAUSēIABēYEEM FAIBĘNTXIVĘRHOĘTOVĔOOĒZWJ THAJčVOWEL KAABĖVĕBĕIBĖVĕUBĖVĕVĕW",
    "BĖVĔEBĕEBĖVĕVĔIABĖVĕBĕVĔOBĕOBĖVĕVĔUABĖVĕBĕVĔWBĕVĂLLASăM BRANCHąDOWN HANDąTREEąUP HANDĄS UP TOGET",
    "HERĄYRENE LEFT-POINTING FLEURONČTTER ALEPHĒYINđBETHđDALETHđFINAL NUNđGIMELđHEēTHđKAPHđLAMEDHđMEM",
    "đNUNđPEđQOPHđRESHđSADHEēMEKHĒHINđTAWĒETHđWAWđYODHđZAYINĊNUMBER FIVEĒOURđONEđTENĒHREEĒWENTYēOĊRIG",
    "HT-POINTING FLEURONĂNCAKESăDA FACEĂPERCLIPĂRACHUTEĄGRAPH SEPARATORĉOSĉUS MARKĄLLEL TOĉWITH HORIZ",
    "ONTAL STROKEĎTILDE OPERATORăENTHESIZED DIGIT EIGHTĔFIVEĕOURĔNINEĔONEĔSEVENĕIXĔTHREEĕWOĎHANGUL CH",
    "IEUCHĜ AĖIEUCĚ AěUĕHIEUHĚ AĕIEUNGĚ AĕKHIEUKHĜ AĖIYEOKě AĕMIEUMĚ AĕNIEUNĚ AĕPHIEUPHĜ AĖIEUPĚ AĕRI",
    "EULĚ AĕSIOSę AĕTHIEUTHĜ AĖIKEUTě AĎIDEOGRAPH ALLIANCEĘCALLęONGRATULATIONĘEARTHęIGHTęNTERPRISEĘFE",
    "STIVALęINANCIALĚREĚVEęOURĘHAVEĘLABORĘMETALęOONĘNAMEęINEĘONEĘREACHĚPRESENTĚSOURCEěTĘSELFĚVENęIXęO",
    "CIETYęPECIALęTOCKĚUDYęUNĚPERVISEĘTENęHREEęWOĘWATERęOODĎKOREAN CHARACTER O HUĠJEONĎLATIN CAPITAL ",
    "LETTER AģBģCģDģEģFģGģHģIģJģKģLģMģNģOģPģQģRģSģTģUģVģWģXģYģZĔSMALL LETTER AġBġCġDġEġFġGġHġIġJġKġLġ",
    "MġNġOġPġQġRġSġTġUġVġWġXġYġZĎNUMBER EIGHTEENĖLEVENĕFIFTEENĖOURTEENĕNINETEENĕSEVENTEENĖIXTEENĕTENĖ",
    "HIRTEENĖWELVEĘNTYăROTăT ALTERNATION MARKĄIAL DIFFERENTIALĈLINE BACKWARDčDOWNčFORWARDčUPćLY-RECYC",
    "LED PAPER SYMBOLĄNERSHIP SIGNĄY POPPERĂSSED SYMBOLąNGER SHIPĄIVE-PULL-DOWN-OUTPUT SYMBOLčUP-OUTP",
    "UT SYMBOLĄPORT CONTROLĂU CIN HAU GLOTTAL STOPĘ FINALęVARIANTČLETTER AēBAēCAĔHAēDAēEēFAĔINAL KęLę",
    "MęNĚGęPęTęWęYēGAēHAēIĔAēKAĔHAēLAēMAēNAĔGAēOēPAĔHAēRAēSAēTAĔHAēUĔAēVAēZAčOW-FALLING TONEĜ FINALĝL",
    "ONGġ FINALČMID-LEVEL TONEĚ FINALěLONG FINALČRISING TONEė FINALĘLONGĜ FINALČSANDHI GLOTTAL STOPğ ",
    "FINALēTONEė FINALĘLONGĜ FINALĂW PRINTSāDFĂIāEACE SYMBOLĄHĄOCKăNUTSăRĂDESTRIANĂN OVER STAMPED ENV",
    "ELOPEăCILăGUINăSIVE FACEăTAGRAMĂOPLE HUGGINGĂR MILLE SIGNĄSIGNĄTEN THOUSAND SIGNăCENT SIGNăFORMI",
    "NG ARTSăMANENT PAPER SIGNăPENDICULARč WITH SăSEVERING FACEĄON BOWING DEEPLYćCLIMBINGćDOING CARTW",
    "HEELćFROWNINGćIN LOTUS POSITIONĊSTEAMY ROOMćRAISING BOTH HANDS IN CELEBRATIONćWITH BALLčLOND HAI",
    "RČCROWNČFOLDED HANDSČHEADSCARFČPOUTING FACEĆAL COMPUTERĄPECTIVEĂSETA SIGNăO SIGNĂTRI DISHāHAGS-P",
    "A DOUBLE HEAD MARKĉLETTER AđLTERNATE YAđSPIRATED FAĐBAĐCAĒNDRABINDUđHAĐDAđDAđZAĐEđEĐFAĐGAđGAĐHAĐ",
    "IĐJAĐKAđHAĐLAĐMAĐNAđGAđNAđYAĐOĐPAđHAĐQAĐRAĐSAđHAđMALL AĐTAđHAđSAĒHAđTAĒHAĐUĐVOICED HAĕLESS SHAĐW",
    "AĐXAĐYAĐZAđHAĉMARK DOUBLE SHADĎSHADĉSINGLE HEAD MARKĊUBJOINED LETTER RAĚWAĚYAċPERFIXED LETTER RA",
    "ăISTOS DISC SIGN ARROWēBEEĖHIVEĔOOMERANGĕWĔULLS LEGēCAPTIVEĕRPENTRY PLANEĕTĔHILDĔLUBĔOLUMNĕMBėIN",
    "ING OBLIQUE STROKEēDOLIUMĕVEēEAGLEēFLUTEēGAUNTLETĔRATERēHELMETĔIDEĔORNēLIDĕLYēMANACLESĕTTOCKēOX ",
    "BACKēPAPYRUSĔEDESTRIANĔLANE TREEĕUMED HEADēRAMĔOSETTEēSAWĔHIELDĖPĔLINGĔMALL AXEĔTRAINERēTATTOOED",
    " HEADĔIARAĔUNNYēVINEēWAVY BANDĔOMANĂILIPPINE DOUBLE PUNCTUATIONċSINGLE PUNCTUATIONĂOENICIAN LETT",
    "ER AINēLFĒBETĒDELTĒGAMLĒHEĔTĒKAFĒLAMDĒMEMĒNUNĒPEĒQOFĒROSHĒSADEēEMKēHINĒTAUēETĒWAUĒYODĒZAIċNUMBER",
    " ONEĕ HUNDREDĒTENēHREEēWENTYĔOċWORD SEPARATORăLUSāICKĄUP TRUCKĂEĂGă FACEĄNOSEĂLCROW SIGNăE OF PO",
    "OăLĂNATAăCHED FINGERSąING HANDăE DECORATIONĄAPPLEăWHEEL STARĂSCESăTOLĂTCHFORKĉ WITH TEE TOPāLACA",
    "RDĄE OF INTEREST SIGNĉWORSHIPăNCK CONSTANTď OVER TWO PIăYGROUND SLIDEĄING CARD ACE OF CLUBSĔDIAM",
    "ONDSĔHEARTSĔSPADESčBACKĎLACK JOKERčEIGHT OF CLUBSĖDIAMONDSĖHEARTSĖSPADESčFIVE OF CLUBSĕDIAMONDSĕ",
    "HEARTSĕSPADESĎOOLďUR OF CLUBSĕDIAMONDSĕHEARTSĕSPADESčJACK OF CLUBSĕDIAMONDSĕHEARTSĕSPADESčKING O",
    "F CLUBSĕDIAMONDSĕHEARTSĕSPADESĎNIGHT OF CLUBSėDIAMONDSėHEARTSėSPADESčNINE OF CLUBSĕDIAMONDSĕHEAR",
    "TSĕSPADESčQUEEN OF CLUBSĖDIAMONDSĖHEARTSĖSPADESčRED JOKERčSEVEN OF CLUBSĖDIAMONDSĖHEARTSĖSPADESĎ",
    "IX OF CLUBSĔDIAMONDSĔHEARTSĔSPADESčTEN OF CLUBSĔDIAMONDSĔHEARTSĔSPADESĎHREE OF CLUBSĖDIAMONDSĖHE",
    "ARTSĖSPADESĎRUMP-1Ĕ0Ĕ1Ĕ2Ĕ3Ĕ4Ĕ5Ĕ6Ĕ7Ĕ8Ĕ9ē2Ĕ0Ĕ1ē3ē4ē5ē6ē7ē8ē9ĎWO OF CLUBSĔDIAMONDSĔHEARTSĔSPADESčWH",
    "ITE JOKERĂDĂUăNGERăS SIGNĉ ABOVE EQUALS SIGNĊIN LEFT HALF CIRCLEčRIGHT HALF CIRCLEčTRIANGLEĊWITH",
    " BLACK TRIANGLEďCIRCUMFLEX ACCENT ABOVEďDOT BELOWďSMALL CIRCLE ABOVEĐUBSCRIPT TWOďTILDE ABOVEĕBE",
    "LOWĄ-MINUS SIGNăTOą FORM FIVEČOURċTHREEČWOāMāOCKET CALCULATORĂLICE CARĊS REVOLVING LIGHTćOFFICER",
    "ĂODLEĂP DIRECTIONAL FORMATTINGĐISOLATEăCORNĂRTABLE STEREOĂSEIDONăITION INDICATORăTAL HORNćMARKċ ",
    "FACEĄBOXĂT OF FOODăABLE WATER SYMBOLĄTOăTED PLANTĂUCHăLTRY LEGăND SIGNăRING LIQUIDăTING CAT FACE",
    "ĈFACEĂWER ON SYMBOLĈ-OFF SYMBOLĆSLEEP SYMBOLćYMBOLāRAYER BEADSĂECEDESĈ ABOVE ALMOST EQUAL TOďEQU",
    "ALS SIGNďNOT ALMOST EQUAL TOēEQUAL TOďSINGLE-LINE EQUALS SIGNěNOT EQUAL TOĉBUT NOT EQUIVALENT TO",
    "ĉOR EQUAL TOďIVALENT TOĉUNDER RELATIONăGNANT MANĉPERSONĉWOMANăSCRIPTION TAKEĄENTATION FORM FOR V",
    "ERTICAL COLONġMMAğEM DASHĠN DASHĠXCLAMATION MARKğHORIZONTAL ELLIPSISğIDEOGRAPHIC COMMAīFULL STOP",
    "ğLEFT ANGLE BRACKETĤBLACK LENTICULAR BRACKETĤCORNER BRACKETĥURLY BRACKETĤDOUBLE ANGLE BRACKETĤPA",
    "RENTHESISĤSQUARE BRACKETĤTORTOISE SHELL BRACKETĤWHITE CORNER BRACKETĪLENTICULAR BRACKETĠOW LINEğ",
    "QUESTION MARKğRIGHT ANGLE BRACKETĥBLACK LENTICULAR BRACKETĥCORNER BRACKETĦURLY BRACKETĥDOUBLE AN",
    "GLE BRACKETĥPARENTHESISĥSQUARE BRACKETĥTORTOISE SHELL BRACKETĥWHITE CORNER BRACKETīLENTICULAR BR",
    "ACKETĹKCETğSEMICOLONğTWO DOT LEADERğWAVY LOW LINEăTZELăVIOUS PAGEĂIMEăNCEĆSSĄT SCREEN SYMBOLąERć",
    " ICONăVACY MESSAGEąTE USE ONEČTWOċ-1Č2ĂOBING CANEăHIBITED SIGNăJECTIVEăPERTY LINEĄORTIONĊAL TOăS",
    "ERPINAāSALTER PAHLAVI FOUR DOTS WITH CROSSğDOTĐLETTER ALEPHėBETHėDALETHėGIMELėHEęTHėKAPHėLAMEDHė",
    "MEM-QOPHėNUNėPEėSADHEęMEKHĘHINėTAWėWAW-AYIN-RESHėYODHėZAYINĐNUMBER FOURėONEĚ HUNDREDėTENĘHREEĘWE",
    "NTYęOĐSECTION MARKĐTURNED SECTION MARKāU1Ă2ĂBLIC ADDRESS LOUDSPEAKERĂNCTUATION SPACEĆS ELEVATUS ",
    "MARKĂRPLE HEARTăSEĂSHPINĂT LITTER IN ITS PLACE SYMBOLĀQUADRANT LOWER LEFTďRIGHTĉUPPER LEFTē AND ",
    "LOWER LEFT AND LOWER RIGHTĞRIGHTĘUPPER RIGHT AND LOWER LEFTĮRIGHTďRIGHTĔ AND LOWER LEFTģ AND LOW",
    "ER RIGHTąUPLE INTEGRAL OPERATORĊPRIMEăRTER NOTEăTERNION INTEGRAL OPERATORĂESTION EXCLAMATION MAR",
    "KĉMARKĈED EQUAL TOĂINCUNXĂOTATION MARKĀRABBITĆ FACEĂCCOONăING CARćMOTORCYCLEĂDICAL SYMBOL BOTTOM",
    "ĄOą BUTTONąACTIVE SIGNĂILWAY CARĈTRACKăNĄBOWăSED BACK OF HANDćCOMMAćDOTĊTED INTERPOLATION MARKER",
    "ćFISTćHANDċ WITH FINGERS SPLAYEDđPART BETWEEN MIDDLE AND RING FINGERSćINTERPOLATION MARKERćMC SI",
    "GNĈD SIGNĈR SIGNćSQUAREĂMĂTăIOĂZORāECEIPTăORD SEPARATORăREATIONAL VEHICLEăYCLED PAPER SYMBOLĆING",
    " SYMBOL FOR GENERIC MATERIALSĕTYPE-1 PLASTICSĚ2 PLASTICSĚ3 PLASTICSĚ4 PLASTICSĚ5 PLASTICSĚ6 PLAS",
    "TICSĚ7 PLASTICSĂD APPLEĄGIFT ENVELOPEĂFERENCE MARKĂGIONAL INDICATOR SYMBOL LETTER AġBġCġDġEġFġGġ",
    "HġIġJġKġLġMġNġOġPġQġRġSġTġUġVġWġXġYġZĄSTERED SIGNĂJANG CONSONANT SIGN HĖNėGĖRćLETTER AĎBAĎCAĎDAĎ",
    "GAĎHAĎJAĎKAĎLAĎMAďBAĎNAďDAďGAĐGAďYAĐJAĎPAĎRAĎSAĎTAĎWAĎYAćSECTION MARKćVIRAMAĈOWEL SIGN AIēUĒEēAē",
    "UĒIĒOĒUĂLIEVED FACEĂMINDER RIBBONĂPLACEMENT CHARACTERĂSPONSEăTRICTED LEFT ENTRY-1Ė2ąOOMĂTURN LEF",
    "TćRIGHTćSYMBOLĂVERSE CHECKER BOARDĈINDEXĈLIGHT FOUR POINTED PINWHEEL STARĊNE FEEDĈSOLIDUSď OPERA",
    "TORĐPRECEDING SUBSETĐWITH HORIZONTAL STROKEĈTILDE OPERATOR ABOVE LEFTWARDS ARROWĝRIGHTWARDS ARRO",
    "WćD ANGLEĎ WITH UNDERBARĉCOMMAĉDOUBLE PRIMEĕ QUOTATION MARKĐSTROKE NOT SIGNĉEMPTY SETĉFORKED PAR",
    "AGRAPHOSĉHAND WITH MIDDLE FINGER EXTENDEDĉNOT SIGNĉPILCROW SIGNĊRIMEĉQUESTION MARKĉRAISED HAND W",
    "ITH FINGERS SPLAYEDĊIGHT ANGLEĊOTATED FLORAL HEART BULLETĉSANS-SERIF CAPITAL LĊEMICOLONĉTHUMBS D",
    "OWN SIGNĐUP SIGNĊILDEĎ EQUALSĊRIPLE PRIMEĉVICTORY HANDăOLVING HEARTSāHINOCEROSāIĂAL SIGNĂBBONĆ A",
    "RROW DOWN LEFTĒRIGHTčLEFT DOWNĒUPčRIGHT DOWNēUPčUP LEFTĐRIGHTĂCE BALLąCRACKERĂFLEĂGHT AND LOWER ",
    "ONE EIGHTH BLOCKĊUPPER ONE EIGHTH BLOCKĈGER BUBBLEĉLEċ BRACKETē WITH DOTČDOTTED SUBSTITUTION MAR",
    "KERČSUBSTITUTION MARKERČVARIANT WITH SQUAREČWITH ARCđDOWNWARDS ZIGZAG ARROWćRC GREATER-THAN BRAC",
    "KETĈROW WITH CIRCLED PLUSđSMALL CIRCLEĆBLACK LENTICULAR BRACKETČTORTOISE SHELL BRACKETĆCEILINGćO",
    "RNER BRACKETćURLY BRACKETē LOWER HOOKĔMIDDLE PIECEĔUPPER HOOKĆDOTTED SUBSTITUTION BRACKETĈUBLE A",
    "NGLE BRACKETĎRROW WITH ROUNDED HEADčPARENTHESISčQUOTATION MARKčWIGGLY FENCEĆFISH TAILĈVE EIGHTHS",
    " BLOCKćLOORĆHALF BLACK CIRCLEđSTARčOCKċFOLDERċMEDIUM SHADEċRUNNING MANĈND TELEPHONE RECEIVERĆLOW",
    " PARAPHRASE BRACKETĆNORMAL FACTOR SEMIDIRECT PRODUCTĆONE EIGHTH BLOCKĊQUARTER BLOCKćPEN SQUARED ",
    "DOTćUTER JOINĆPARENTHESISđ EXTENSIONĒLOWER HOOKĒUPPER HOOKĆRAISED OMISSION BRACKETĆS-SHAPED BAG ",
    "DELIMITERćEMIDIRECT PRODUCTĈVEN EIGHTHS BLOCKćIDEWAYS U BRACKETĈNGLE QUOTATION MARKćPEAKERč WITH",
    " ONE SOUND WAVEēTHREE SOUND WAVESĉECH BUBBLEćQUARE BRACKETĔ EXTENSIONĕLOWER CORNERĕUPPER CORNERĕ",
    "WITH DOUBLE STROKEĚQUILLĚSTROKEĚTICK IN BOTTOM CORNERĢTOP CORNERĚUNDERBARćUBSTITUTION BRACKETĆTA",
    "CKćHIRD WHITE RIGHT POINTING INDEXĈOUGHT BUBBLEĈREE EIGHTHS BLOCKČQUARTERS BLOCKćORTOISE SHELL B",
    "RACKETćRANSPOSITION BRACKETĈIANGLEĎ ABOVE LEFT TRIANGLEČULAR ONE QUARTER BLOCKĆVERTICAL BAR WITH",
    " QUILLĐOX LINEĆWHITE CORNER BRACKETčURLY BRACKETČLENTICULAR BRACKETČPARENTHESISČSQUARE BRACKETČT",
    "ORTOISE SHELL BRACKETćIGGLY FENCEą-FACING ARMENIAN ETERNITY SIGNčFISTčSVASTI SIGNĘ WITH DOTSĆHAN",
    "DED INTERLACED PENTAGRAMĆPOINTING ANGLE BRACKETďCURVED ANGLE BRACKETďDOUBLE ANGLE QUOTATION MARK",
    "ďMAGNIFYING GLASSĆSHADED WHITE RIGHTWARDS ARROWćIDE ARC CLOCKWISE ARROWĆTO-LEFT EMBEDDINGĎISOLAT",
    "EĎMARKĎOVERRIDEąHAND INTERIOR PRODUCTąWARDS ARROWĐ ABOVE ALMOST EQUAL TOėREVERSE ALMOST EQUAL TO",
    "ğTILDE OPERATORėSHORT LEFTWARDS ARROWėTILDE OPERATORĒND UPPER AND LOWER ONE EIGHTH BLOCKđFROM BA",
    "Rę TO BLACK DIAMONDđOVER LEFTWARDS ARROWđTHROUGH GREATER-THANęSUPERSETęXĒO BARĕLACK DIAMONDđWITH",
    " CORNER DOWNWARDSĖDOTTED STEMĘUBLE VERTICAL STROKEĖEQUILATERAL ARROWHEADĖHOOKĖLARGE TRIANGLE ARR",
    "OWHEADėOOPĖMEDIUM TRIANGLE ARROWHEADĖNOTCHED TAILĖPLUS BELOWĖSMALL EQUILATERAL ARROWHEADĜTRIANGL",
    "E ARROWHEADėTROKEĖTAILĚ WITH DOUBLE VERTICAL STROKEĠVERTICAL STROKEėIP DOWNWARDSĚUPWARDSĖVERTICA",
    "L STROKEĐ-TAILċBACK-TILTED SHADOWED WHITE ARROWČLACK ARROWđCIRCLED WHITE ARROWČOTTOM SHADED WHIT",
    "E ARROWċCOMPRESSED ARROWċDASHED ARROWČOUBLE ARROWė FROM BARĘWITH STROKEĝVERTICAL STROKEė-TAILĒDA",
    "SH ARROWċFINGER-POST ARROWČRONT-TILTED SHADOWED WHITE ARROWċHANDčRPOON OVER LEFTWARDS HARPOONēWI",
    "TH BARB DOWN ABOVE LEFTWARDS HARPOON WITH BARB DOWNĢBELOW LONG DASHĢFROM BARĢTO BARġWARDSĝUP ABO",
    "VE LEFTWARDS HARPOON WITH BARB UPħONG DASHĦRIGHTWARDS HARPOON WITH BARB DOWNĠFROM BARĠTO BARğWAR",
    "DSČEAVY ARROWđCOMPRESSED ARROWċLEFT-SHADED WHITE ARROWċOPEN-HEADED ARROWċPAIRED ARROWSċQUADRUPLE",
    " ARROWċRIGHT-SHADED WHITE ARROWČOCKETċSANS-SERIF ARROWČQUARED ARROWĎIGGLE ARROWċTOP SHADED WHITE",
    " ARROWČRIANGLE ARROWHEADē-HEADED ARROWĠ OVER LEFTWARDS TRIANGLE-HEADED ARROWġTO BARġWITH BOLD SH",
    "AFTĦDOUBLE HORIZONTAL STROKEĭVERTICAL STROKEĦHEAVY SHAFTĦLONG TIP DOWNWARDSįUPWARDSĦMEDIUM SHAFT",
    "ĦNARROW SHAFTĦVERY HEAVY SHAFTěDASHED ARROWěPAIRED ARROWSĎPLE ARROWĒDASH ARROWČWO HEADED ARROWĎ-",
    "HEADED ARROW FROM BARĜWITH DOUBLE VERTICAL STROKEġTAILĥ WITH DOUBLE VERTICAL STROKEīVERTICAL STR",
    "OKEĢRIANGLE ARROWHEADSġVERTICAL STROKEĖTRIPLE DASH ARROWċWAVE ARROWČHITE ARROWĖ FROM WALLėWITHIN",
    " TRIANGLE ARROWHEADĂNGĄ ABOVEąBUOYąEQUAL TOąIN EQUAL TOąOPERATORąPOINTĄED PLANETĄING BELLĂSING D",
    "IAGONAL CROSSING FALLING DIAGONALęSOUTH EAST ARROWāLEĂIĂMĂOāOASTED SWEET POTATOĂBOT FACEĂCKĄETĂL",
    "L OF PAPERĄED-UP NEWSPAPERąR COASTERćSKATEĄING ON THE FLOOR LAUGHINGĂMAN AS SIGNĆCENTURIAL SIGNĆ",
    "DENARIUS SIGNćIMIDIA SEXTULA SIGNćUPONDIUS SIGNĆNUMERAL EIGHTďLEVENĎFIFTYē EARLY FORMĔTHOUSANDĐV",
    "EĒ HUNDREDēTHOUSANDďOURĎNINEĎONEđ HUNDREDę THOUSANDĒTHOUSANDĚ C DĎREVERSED ONE HUNDREDĎSEVENďIXđ",
    " LATE FORMĎTENđ THOUSANDďHREEďWELVEĐOĆQUINARIUS SIGNĆSEMUNCIA SIGNĈSTERTIUS SIGNĈXTANS SIGNĊULA ",
    "SIGNćILIQUA SIGNĆUNCIA SIGNĂOSTERĂSEĄTTEĂTATED CAPITAL QĈFLORAL HEART BULLETĈHEAVY BLACK HEART B",
    "ULLETĈLIGHT FOUR POINTED BLACK CUSPĈWHITE FOUR POINTED CUSPĂUND PUSHPINĆTARGETąED SYMBOL FOR CAI",
    "ēFUēLUēSHOUĕUANGXIēXIĂWBOATāSāUBLE SIGNĂGBY FOOTBALLĂLE-DELAYEDĂMI DIGIT EIGHTċFIVEČOURċNINEċONE",
    "ċSEVENČIXċTHREEČWOąFRACTION ONE HALFĒQUARTERĒTHIRDĎTWO THIRDSąNUMBER EIGHT HUNDREDđYČFIFTYĎVE HU",
    "NDREDčORTYĎUR HUNDREDČNINE HUNDREDĐTYČONE HUNDREDČSEVEN HUNDREDđTYčIX HUNDREDďTYČTENčHIRTYĎREE H",
    "UNDREDčWENTYĎO HUNDREDĂNIC ARLAUG SYMBOLĆBELGTHOR SYMBOLĆCROSS PUNCTUATIONĆLETTER AC AĎESCĎLGIZ ",
    "EOLHXĎNSUZ AčBERKANAN BEORC BJARKAN BčCĎALCĎEALCďNĎWEORTHčDĎAGAZ DAEG DĎOTTED-LĔNĔPčEĎARĎHWAZ EH",
    " EĎNGĎTHčFEHU FEOH FE FĎRANKS CASKET ACĜESCěEHěISěOSčGĎARĎEBO GYFU GďRčHAEGL HďGLAZ HčICELANDIC-",
    "YRĎNGĐWAZĎORĎSAZ IS ISS IĎWAZ EOHčJERAN JčKĎAUN KđAčLAUKAZ LAGU LOGR LĎONG-BRANCH-AR AEęHAGALL H",
    "ęMADR MęOSS OęYRčMANNAZ MAN MčNAUDIZ NYD NAUD NčOĎEĎNĎOĎPEN-PĎS OĎTHALAN ETHEL OčPERTHO PEORTH P",
    "čQčRAIDO RAD REID RčSHďORT-TWIG-AR AĘBJARKAN BĘHAGALL HĘMADR MĘNAUD NĘOSS OĘSOL SĘTYR TĘYRĎIGEL ",
    "LONG-BRANCH-SOL SĎOWILO SĎTANčTHURISAZ THURS THORNĎIWAZ TIR TYR TčURUZ UR UčVčWĎUNJO WYNN WčXčYĎ",
    "RčZĆMULTIPLE PUNCTUATIONĆSINGLE PUNCTUATIONĆTVIMADUR SYMBOLăNERĄING SHIRT WITH SASHĂPEE SIGNĂSSI",
    "AN ASTROLOGICAL SYMBOL BINOVILEĜNOVILEĜQUINTILEĜSENTAGONĜTREDECILEĜVIGINTILEĀS IN TRIANGLEāAFETY",
    " PINćVESTĂGITTARIUSĂILBOATĂKE BOTTLE AND CUPĂLT SHAKERĄIREăUTING FACEĂMARITAN ABBREVIATION MARKĊ",
    "LETTER ALAFđBAAĒITđDALATđFIđGAMANđINĒTĒYđKAAFđLABATđMIMđNUNđQUFđRISHđSHANĒINGAATđTAAFĒITĒSAADIYđ",
    "YUTđZENĊMARK DAGESHďEPENTHETIC YUTďINđ-ALAFďNEQUDAAďOCCLUSIONċODIFIER LETTER EPENTHETIC YUTĚIĚSH",
    "ORT AĊPUNCTUATION AFSAAQėNGEDĘNAAUėRKAANUėTMAAUĖBAUĖMELODIC QITSAĖNEQUDAAĖQITSAĖSHIYYAALAAėOF MA",
    "SHFAATĖTURUĖZAEFėIQAAĊVOWEL SIGN AĖAĕEĕIĕLONG AěAĚEĚIĚUĕOĖVERLONG AğAĕSHORT AĖUKUNĕUĂNDWICHăS-SE",
    "RIF HEAVY DOUBLE COMMA QUOTATION MARK ORNAMENTĘTURNED COMMA QUOTATION MARK ORNAMENTđLOW DOUBLE C",
    "OMMA QUOTATION MARK ORNAMENTċINTERROBANG ORNAMENTĂRIĂTELLITEĉ ANTENNAăURNĂURASHTRA CONSONANT SIG",
    "N HAARUċDANDAČIGIT EIGHTđFIVEĒOURđNINEđONEđSEVENĒIXđTHREEĒWOđZEROČOUBLE DANDAċLETTER AēAēIēUĒBAē",
    "HAĒCAēHAĒDAēDAĔHAēHAĒEēEĒGAēHAĒHAĒIēIĒJAēHAĒKAēHAĒLAēLAĒMAĒNAēGAēNAēYAĒOēOĒPAēHAĒRAĒSAēHAēSAĒTAē",
    "HAēTAĔHAĒUēUĒVAēOCALIC LěLĚRěRĒYAċSIGN ANUSVARAĐCANDRABINDUĐVIRAMAĒSARGAċVOWEL SIGN AAėIėUĖEėEĖI",
    "ėIĖOėOĖUėUĖVOCALIC LğLĞRğRĄOPODĂXOPHONEāCALESăRFĂHOOLĆ SATCHELĂIĂOOTERăRPIONĆUSĂREENĄWDRIVERăIPT",
    " CAPITAL BďEďFďHďIďLďMďPďRćLIGATURE ET ORNAMENTćSMALL EčGčLčOăOLLăUPLEāEALăTĂCOND PLACE MEDALăTI",
    "ON SIGNĄORĂDNAĂE-NO-EVIL MONKEYăDLINGĂGMENTćED DIGIT EIGHTĐFIVEđOURĐNINEĐONEĐSEVENđIXĐTHREEđWOĐZ",
    "EROĂLFIEĂMICOLONĄDIRECT PRODUCT WITH BOTTOM CLOSEDĄSEXTILEĂPARATED SYMBOLĂRIOUS FACE WITH SYMBOL",
    "S COVERING MOUTHăVICE MARKĂSAME DOTăQUIQUADRATEĂT MINUSĄTRANSMIT STATEĂWING NEEDLEĂXTILEāGCāHADO",
    "WED WHITE CIRCLEďLATIN CROSSďSTARăLLOW PAN OF FOODăMROCKăRADA ABBREVIATION SIGNĈCONTINUATION SIG",
    "NĈDANDAĉIGIT EIGHTĎFIVEďOURĎNINEĎONEĎSEVENďIXĎTHREEďWOĎZEROĉOUBLE DANDAĈEKAMĉXTRA SHORT VOWEL MA",
    "RKĈHEADSTROKEĈLETTER AĐAĐIĐUďBAĐHAďCAĐHAďDAĐDAđHAĐHAďEďGAĐHAďHAďIĐIďJAĐHAďKAĐHAďLAĐLAďMAďNAĐGAĐN",
    "AĐYAďOďPAĐHAďRAďSAĐHAĐSAďTAĐHAĐTAđHAďUĐUďVAĐOCALIC LĘLėRĘRďYAĈOMĈSANDHI MARKĉECTION MARK-1ĕ2ĊPAR",
    "ATORĉIGN ANUSVARAĎVAGRAHAčCANDRABINDUčINVERTED CANDRABINDUčJIHVAMULIYAčNUKTAčSIDDHAMčUPADHMANIYA",
    "čVIRAMAďSARGAĉUTRA MARKĈVOWEL MODIFIER MARKĎSIGN AAĔIĔUēEēIĔIēOēPRISHTHAMATRA EēUĔUēVOCALIC LĜLě",
    "RĜRĄKăVED ICEĄIAN LETTER ADOĐGEĐHĐIRĐREđRAYĐSHĐWEďBIBďCHURCHďDEADďEARđTĐGGĐRRďFEEďGAGďHA-HAĐUNGď",
    "IANĐCEĐFďJUDGEďKICKďLOLLďMEASUREĐIMEďNUNďOAKĐILĐNĐOZEĐRĐUTďPEEPďROARďSOĐUREďTHEYđIGHĐOTďUPďVOWďW",
    "OEđOLďYEAđWďZOOĂEEPĂIELDăFT INĆOUTăNTO SHRINEăPĂOCKED FACE WITH EXPLODING HEADăOTING STARăPPING ",
    "BAGSĉTROLLEYăRT BACKSLANTED SOUTH ARROWćENT ARROW POINTING DOWNWARDS THEN NORTH EASTĆDOWN TACKď ",
    "WITH OVERBARĆLEFT TACKĆRIGHTWARDS ARROW ABOVE LEFTWARDS ARROWĆSLANTED NORTH ARROWĆUP TACKč ABOVE",
    " SHORT DOWN TACKĎWITH UNDERBARąCAKEąHAND FORMAT CONTINUING OVERLAPđDOWN STEPđLETTER OVERLAPđUP S",
    "TEPąSăULDERED OPEN BOXăWERĂRIMPăUGĂUFFLE PRODUCTĂYāIĂDDHAM DANDAĉOUBLE DANDAĈEND OF TEXT MARKĈLE",
    "TTER AĐAĐIĐLTERNATE UĐUďBAĐHAďCAĐHAďDAĐDAđHAĐHAďEďGAĐHAďHAďIĐIďJAĐHAďKAĐHAďLAďMAďNAĐGAĐNAĐYAďOďP",
    "AĐHAďRAďSAĐHAĐSAďTAĐHAđREE-CIRCLE ALTERNATE IĐTAđHAĐWO-CIRCLE ALTERNATE IĥIďUĐUďVAĐOCALIC LĘLėRĘ",
    "RďYAĈREPETITION MARK-1Ę2Ę3ĈSECTION MARK DOUBLE RINGĠ WITH RAYSĕWITH CIRCLES AND FOUR ENCLOSURESĦ",
    "RAYSĦTWO ENCLOSURESĚDOUBLE CRESCENTSĚQUADRUPLE CRESCENTSĚRAYS AND DOTTED CRESCENTSĪDOUBLE CRESCE",
    "NTSĪTRIPLE CRESCENTSĚSEPTUPLE CRESCENTSĚTRIDENT AND DOTTED CRESCENTSĦU-SHAPED ORNAMENTSĝPLE CRES",
    "CENTSĊPARATOR BARĒDOTĉIGN ANUSVARAčCANDRABINDUčNUKTAčSIDDHAMčVIRAMAďSARGAĈVOWEL SIGN AAĔIĔLTERNA",
    "TE UĞUĔUēEēIĔIēOēUĔUēVOCALIC RĜRăEWAYS BLACK DOWN POINTING INDEXďLEFT POINTING INDEXďRIGHT POINT",
    "ING INDEXďUP POINTING INDEXĉWHITE DOWN POINTING INDEXďLEFT POINTING INDEXďRIGHT POINTING INDEXďU",
    "P POINTING INDEXĂGN OF THE HORNSĄWRITING AIR BLOW SMALL ROTATIONSĔING OUTĐSUCK SMALL ROTATIONSĔI",
    "NG INČBREATH EXHALEēINHALEĎUSH BETWEENĒMULTIPLEĒSINGLEČCHEEKS NEUTRALēPUFFEDēSUCKEDčOLONĎMMAČDRE",
    "AMY EYEBROWS DOWN NEUTRALĜNEUTRAL DOWNĤUPĜUP NEUTRALčYNAMIC ARROWHEAD LARGEĞSMALLĔEVERY OTHER TI",
    "MEĔFASTĔGRADUALĔRELAXEDĔSIMULTANEOUSĠ ALTERNATINGĕLOWĔTENSEČEARSčXCITEMENTčYE BLINK MULTIPLEĖSIN",
    "GLEĐWINKďBROWS STRAIGHT DOWNĞNEUTRALĞUPďGAZE-FLOORPLANE CURVEDğSTRAIGHTħ ALTERNATINGĨDOUBLEĔWALL",
    "PLANE CIRCLINGğURVEDĞSTRAIGHTĦ ALTERNATINGħDOUBLEďLASHES DOWNĖFLUTTERINGĖUPďS CLOSEDđHALF CLOSED",
    "ĖOPENđOPENđSQUEEZEDđWIDE OPENĕNING MOVEMENTČFACE DIRECTION POSITION NOSE FORWARD TILTINGĩUP OR D",
    "OWNĳ TILTINGčILL MODIFIER-2Ě3Ě4Ě5Ě6ĎNGERčLICK LARGE MULTIPLEĘSINGLEĒSEQUENTIALēMALL MULTIPLEĘSIN",
    "GLEĎOORPLANE SHOULDER HIP MOVEčOREHEAD CONTACTĕNEUTRALĕWRINKLEDčULL STOPČGRASP BETWEENĒMULTIPLEĒ",
    "SINGLEČHAIRĎND-ANGLEĖ INDEXĜ MIDDLE LITTLEĤRINGĝRING LITTLEĨ OUTĝTHUMBĢ INģOUTėLITTLE INDEXģ THU",
    "MB INDEX THUMBĵ OUTĞUPėMIDDLE RING LITTLEĩ INĪOUTėRING DOWN MIDDLE THUMB INDEX CROSSĜLITTLEđCIRC",
    "LEė INDEXĝ BENTĞHINGEĞMIDDLEĤ CROSS LITTLEĪEDĥLITTLEĥRINGĥTHUMBĞRING LITTLEĘLITTLE INDEXğUPĘMIDD",
    "LE RING LITTLEĪ BENTğUPĘRING LITTLEĒLAWĕ FOUR FINGERS CONJOINEDĖINDEX THUMB CURVE THUMB INSIDEĖM",
    "IDDLE RING LITTLE CONJOINEDĲ SIDEĖNO THUMBĖTHUMB FORWARDĜSIDEĒUPĔ FIVE FINGERS SPREADĨ OPENĕINDE",
    "XĚ RING LITTLEěTHUMBĠ OPENĕMIDDLE RING LITTLEĕNO THUMBĕOPENę NO THUMBĚTHUMB FORWARDĠSIDEĕTHUMB F",
    "ORWARDěSIDEēRLICUEę INDEX RING LITTLE ONĚMIDDLE RING LITTLE ONĚOPENđFISTĕ FOUR FINGERS CONJOINED",
    " BENTĖHEELĖINDEXě BENTĠ OVER MIDDLEĜCUPPEDĜHINGEDĢ LOWģMIDDLE UPĬ THUMB SIDEĜMIDDLEĢ BENTħ THUMB",
    " STRAIGHTģCONJOINEDĬ CUPPEDĳ THUMB FORWARDĭHINGEDĳ THUMB SIDEĭINDEX BENTĭMIDDLE BENTĭTHUMB FORWA",
    "RDĳSIDEķ BENTĸCONJOINEDĤROSS LITTLEĨEDĪ THUMB SIDEģHINGEDĩ SPREAD THUMB SIDEģLITTLEģRAISED KNUCK",
    "LESĤINGħ BENTĨCONJOINEDģSTRAIGHT THUMB BENTģTHUMBĨ ANGLEDį OUTĩBENTĩCIRCLEDĪONJOINED HINGEDĪUPPE",
    "DĩHINGEDĪOOKEDģUP SPREAD THUMB FORWARDĜRAISED KNUCKLEĝING LITTLEĜTHUMB ANGLED IN MIDDLE UPĩOUT M",
    "IDDLE UPĢCIRCLEĨD MIDDLE UPģUPPED MIDDLE UPĤRLICUEĥVE THUMB INSIDEĮUNDERĢFORWARD INDEX BENTİSTRA",
    "IGHTĢHOOKĦED MIDDLE HINGEDİUPĢSIDEĦ BOTH BENTħINDEX BENTĭHINGEħTHUMB BENTĭCONJOINEDĭDIAGONALĜUP ",
    "MIDDLE HINGEDĬ THUMB CONJOINEDĳSIDEĖLITTLE BENTĝDOWNġ OTHERS CIRCLEDĢRIPPLE CURVEDĩSTRAIGHTĝINDE",
    "XĢ THUMBĝRAISED KNUCKLEĝTHUMBĞOUCHES THUMBĝUPĖMIDDLE BENT OVER INDEXĝDOWNĝLITTLEĝRAISED KNUCKLEĞ",
    "ING LITTLEĝTHUMB ANGLED INDEX UPĪOUT INDEX CROSSEDĴUPģCIRCLED INDEX HINGEDıUPĤUPPED INDEX UPģHOO",
    "KED INDEX UPģLITTLEĝUPğ THUMB SIDEĖRING DOWNěINDEXěLITTLEěMIDDLEġ CONJOINEDĢRAISED KNUCKLESěRAIS",
    "ED KNUCKLEěTHUMBěUPĖTHUMBě BETWEEN INDEX MIDDLEİ STRAIGHTĤMIDDLE RINGĤRING LITTLEĜFORWARDĜHEELĜO",
    "VER FOUR RAISED KNUCKLESġTWO FINGERSĜSIDE BENTġCONJOINEDġDIAGONALĜUNDER FOUR FINGERSĢINDEX BENTĢ",
    "LITTLE UPĢTHREE FINGERSģWO FINGERSĒLATĕ BETWEEN PALM FACINGSĖFIVE FINGERS SPREADĩ BENTĪFOUR BENT",
    "ĪHINGEDİ NO THUMBıTHUMB SIDEĪTHUMB FORWARDėOUR FINGERSĢ BENTģCONJOINEDĬ SPLITģHINGEDĖHEELĚ FIVE ",
    "FINGERS SPREADĮ BENTįFOUR BENTěTHUMB SIDEĖSPLIT CENTREĢ THUMB SIDEĭ BENTĜINDEX THUMB SIDEĜLITTLE",
    "ĖTHUMB BENTĜFORWARDĜSIDEđHINGEĖ FIVE FINGERS SPREAD OPENĘOUR FINGERS CONJOINEDėINDEXĜ HINGEDĝMID",
    "DLE LITTLEĤRINGĨ CONJOINEDĝRING LITTLEĝTHUMBĢ LARGEģOPENģSIDEĤMALLėLITTLEĝ INDEXģ THUMBĞTHUMBėMI",
    "DDLEĝ RING LITTLEėNO THUMBėOPENě NO THUMBĜTHUMB FORWARDĢSIDEėRINGě DOWN INDEX THUMB HOOK MIDDLEė",
    "SMALLėTHUMB BETWEEN MIDDLE RINGĝSIDEġ TOUCHING INDEXĒOOKĕ CURLICUEĖINDEX RING LITTLE INĨOUTĨUNDE",
    "RĖMIDDLE RING LITTLE CONJOINEDĲ INĳOUTĝTHUMBĖRING THUMBđOVALĕ FIVE FINGERS SPREADĖINDEXĖLITTLE U",
    "PĖNO THUMBĖRING LITTLEĖTHUMB FORWARDĜSIDEčEADĐ MOVEMENT CIRCLEę-FLOORPLANE CURVEĥSTRAIGHTĚWALLPL",
    "ANE CURVEĤSTRAIGHTĤTILTđRIMČLIMB COMBINATIONđLENGTH-1Ę2Ę3Ę4Ę5Ę6Ę7ĎP LOWER OVER UPPERĐUPPER OVER ",
    "LOWERďS PRESSED TOGETHERčOCATION DEPTHĕHEAD NECKėIGHTĕLIMBS DIGITSĕTORSOĕWIDTHĔ-FLOORPLANE SPACE",
    "ĕWALLPLANE SPACEČMOUTH CLOSED CONTACTęFORWARDęNEUTRALēORNERSĒFROWNė OPENĘWRINKLEDĒKISSĖ FORWARDė",
    "WRINKLEDĒOPEN CIRCLEėFORWARDėOVALě WRINKLEDĜYAWNėRECTANGLEĠ WRINKLEDġYAWNėWRINKLEDĒSMILEė OPENĘW",
    "RINKLEDĒTENSEė FORWARDĘSUCKEDĒWRINKLES DOUBLEěSINGLEĎVEMENT-DIAGONAL AWAY LARGEĨSTģMEDIUMģSMALLĞ",
    "BETWEEN AWAY LARGEİSTīMEDIUMīSMALLĦTOWARDS LARGEĳSTĮMEDIUMĮSMALLĞTOWARDS LARGEīSTĦMEDIUMĦSMALLĕF",
    "LOORPLANE ARM CIRCLE HITTING WALL LARGE DOUBLEľSINGLEĸMEDIUM DOUBLEĿSINGLEĸSMALL DOUBLEľSINGLEĠB",
    "ENDġOX LARGEĤMEDIUMĤSMALLĠCHECKġORNER LARGEħMEDIUMħSMALLġROSSġURVE COMBINEDĦHITTING CEILING LARG",
    "EĶSMALLĮFLOOR LARGEĴSMALLĦLARGEīSTĦMEDIUMĦSMALLĠDOUBLE ALTERNATINGĲ WRIST FLEXħSTRAIGHTħWRIST FL",
    "EXĠFINGER CIRCLES HITTING WALL DOUBLEļSINGLEĨONTACTĠHUMP HITTING CEILING LARGE DOUBLEĻTRIPLEĵSMA",
    "LL DOUBLEĻTRIPLEĭFLOOR LARGE DOUBLEĳSMALL DOUBLEĳTRIPLE LARGE TRIPLEĺSMALL TRIPLEĥSMALLĠJAWĠLOOP",
    " HITTING CEILING LARGE DOUBLEĻSINGLEĵSMALL DOUBLEĻSINGLEĭFLOOR LARGE DOUBLEĹSINGLEĳSMALL DOUBLEĹ",
    "SINGLEĥSMALLĠPEAKS LARGEĦMEDIUMĦSMALLĠSHAKING PARALLELġINGLE STRAIGHT LARGEĵSTİMEDIUMİSMALLħWRIS",
    "T FLEXĠTRIPLE ALTERNATING MOVEMENTĳWRIST FLEXħSTRAIGHT MOVEMENTħWRIST FLEXĠWAVE HITTING CEILING ",
    "LARGEĵSMALLĭFLOOR LARGEĳSMALLĥLARGEĥSMALLĦNAKEġRIST CIRCLE HITTING WALL DOUBLEĺSINGLEĠZIGZAG LAR",
    "GEħMEDIUMħSMALLĕHINGE DOWN SEQUENTIALěSIDE TO SIDE SCISSORSěUP DOWN ALTERNATING LARGEįSMALLģLARG",
    "EģSMALLĞSEQUENTIALĕWALLPLANE ARM CIRCLE MEDIUM DOUBLEıSINGLEĪSMALL DOUBLEİSINGLEğBEND LARGEĤMEDI",
    "UMĤSMALLĠOX LARGEģMEDIUMģSMALLğCHECK LARGEĥMEDIUMĥSMALLĠORNER LARGEĦMEDIUMĦROTATIONĦSMALLĠROSSĠU",
    "RVE HALF-CIRCLE LARGEĶSTıMEDIUMıSMALLĦITTING CHESTĭFRONT WALLĥQUARTER LARGEĲSTĭMEDIUMĭSMALLĥTHEN",
    " STRAIGHTħREE-QUARTER CIRCLE MEDIUMĺSMALLĤD CROSS MEDIUMĬSMALLğDOUBLE ALTERNATINGı WRIST FLEXĦST",
    "RAIGHTĦWRIST FLEXğFINGER CIRCLES DOUBLEĮSINGLEħONTACTğHUMP HITTING CHESTĬFRONT WALLĤLARGEĤMEDIUM",
    "ĤSMALLğJAWğLOOP HITTING CHESTĬFRONT WALLĤLARGEĤMEDIUMĤSMALLĩ DOUBLEğPEAKS LARGEĥMEDIUMĥSMALLğSHA",
    "KINGĠINGLE STRAIGHT LARGEĴSTįMEDIUMįSMALLĦWRIST FLEXğTRIPLE ALTERNATINGı WRIST FLEXĦSTRAIGHT MOV",
    "EMENTĦWRIST FLEXğWAVE CURVE DOUBLE LARGEıMEDIUMıSMALLĪTRIPLE LARGEıMEDIUMıSMALLĤDIAGONAL PATH LA",
    "RGEĲMEDIUMĲSMALLĤHITTING CHESTĬFRONT WALLĠRIST CIRCLE FRONT DOUBLEĲSINGLEğZIGZAG LARGEĦMEDIUMĦSM",
    "ALLČNECKčOSE CONTACTđNEUTRALđWIGGLESĒRINKLESČPARENTHESISČROTATION MODIFIER-10ğ1ğ2ğ3ğ4ğ5ğ6Ğ2Ğ3Ğ4Ğ",
    "5Ğ6Ğ7Ğ8Ğ9Ĕ-FLOORPLANE ALTERNATINGī HITTING CEILINGĴFLOORĠDOUBLEĦ HITTING CEILINGįFLOORĠSINGLEĦ H",
    "ITTING CEILINGįFLOORĕWALLPLANE ALTERNATEħING HITTING CHESTĳFRONT WALLğDOUBLEĥ HITTING CHESTĮFRON",
    "T WALLğSINGLEĥ HITTING CHESTĮFRONT WALLčUB BETWEENĐMULTIPLEĐSINGLEČSEMICOLONčHOULDER HIP POSITIO",
    "NSęSPINEĕTILTING FROM WAISTčQUEEZE FLICK ALTERNATINGĔLARGE MULTIPLEĚSINGLEĔSEQUENTIALĕMALL MULTI",
    "PLEĚSINGLEčTRIKE BETWEENēMULTIPLEēSINGLEčURFACE BETWEENĔSYMBOLSČTEETHđ BITE LIPSĒMOVEMENTĒON LIP",
    "Sę MOVEMENTĕTONGUEě MOVEMENTĎNSE CHEEKS HIGHęLOWęMIDDLEčONGUE CENTRE INSIDE MOUTHĚSTICKING OUTēI",
    "NSIDE MOUTH RELAXEDēLICKING LIPSēMOVES AGAINST CHEEKēSTICKING OUT FARēTIP BETWEEN LIPSėTOUCHING ",
    "INSIDE MOUTHĎRSO-FLOORPLANE TWISTINGĒWALLPLANE CURVED BENDĜSTRAIGHT STRETCHĎUCH BETWEENĒMULTIPLE",
    "ĒSINGLEčRAVEL-FLOORPLANE ROTATION-FLOORPLANE ALTERNATINGĲDOUBLEĲSINGLEħWALLPLANE ALTERNATINGıDOU",
    "BLEıSINGLEĞSHAKINGēWALLPLANE ARM SPIRAL DOUBLEĨSINGLEĨTRIPLEĝROTATION-FLOORPLANE ALTERNATINGıDOU",
    "BLEıSINGLEĦWALLPLANE ALTERNATINGİDOUBLEİSINGLEĝSHAKINGČUPPER BODY TILTING FROM HIP JOINTSČWALLPL",
    "ANE SHOULDER HIP MOVEĂLHOUETTE OF JAPANĂMILAR ABOVE GREATER-THAN ABOVE EQUALS SIGNĎLESS-THAN ABO",
    "VE EQUALS SIGNĈMINUS SIMILARĈOR GREATER-THANċLESS-THANĂNE WAVEăGLE CHARACTER INTRODUCERćGRAPHIC ",
    "CHARACTER INTRODUCERćHIGH-REVERSED-9 QUOTATION MARKćLEFT-POINTING ANGLE QUOTATION MARKĈOW-9 QUOT",
    "ATION MARKćRIGHT-POINTING ANGLE QUOTATION MARKćSHIFT THREEĎWOĆ-SHIFT-2č3ăHALA ARCHAIC DIGIT EIGH",
    "TĖFIVEėOURĖNINEĖONEĖSEVENėIXĖTHREEėWOĐNUMBER EIGHTYėFIFTYĘORTYėNINETYėONE HUNDREDěTHOUSANDėSEVEN",
    "TYĘIXTYėTENĘHIRTYĘWENTYĈLETTER AAYANNAĐEEYANNAđYANNAĐIYANNAĐLPAPRAANA BAYANNAĚCAYANNAĚDAYANNAěDA",
    "YANNAĚGAYANNAĚJAYANNAĚKAYANNAĚPAYANNAĚTAYANNAěTAYANNAĐMBA BAYANNAĐUYANNAĐYANNAďDANTAJA LAYANNAėN",
    "AYANNAėSAYANNAďEEYANNAĐYANNAďFAYANNAďHAYANNAďIIYANNAĐLUUYANNAĒYANNAĐRUUYANNAĒYANNAĐYANNAďKANTAJA",
    " NAASIKYAYAďMAHAAPRAANA BAYANNAěCAYANNAěDAYANNAĜDAYANNAěGAYANNAěJAYANNAěKAYANNAěPAYANNAěTAYANNAĜ",
    "TAYANNAđYANNAĐUURDHAJA LAYANNAęNAYANNAęSAYANNAďOOYANNAĐYANNAďRAYANNAďSANYAKA DAYANNAĘDAYANNAėGAY",
    "ANNAėJAYANNAďTAALUJA NAASIKYAYAėSANYOOGA NAAKSIKYAYAęYANNAďUUYANNAĐYANNAďVAYANNAďYAYANNAĉITH DIG",
    "IT EIGHTēFIVEĔOURēNINEēONEēSEVENĔIXēTHREEĔWOēZEROĈPUNCTUATION KUNDDALIYAĈSIGN AL-LAKUNAĎNUSVARAY",
    "AčCANDRABINDUčVISARGAYAĈVOWEL SIGN AELA-PILLAēDIGA AEDA-PILLAĘGAETTA-PILLAĚYANUKITTAĘIS-PILLAĘKO",
    "MBUVAĘPAA-PILLAēGAETTA-PILLAĕYANUKITTAēKETTI AEDA-PILLAęIS-PILLAęPAA-PILLAĔOMBU DEKAĘVAĚ HAA AEL",
    "A-PILLAğDIGA AELA-PILLAğGAYANUKITTAĂX PETALLED BLACK AND WHITE FLORETTEąOINTED BLACK STARČPINWHE",
    "EL STARČSTAR WITH MIDDLE DOTă-PER-EM SPACEăTEEN POINTED ASTERISKāKATEBOARDĂI AND SKI BOOTăERĂULL",
    "ą AND CROSSBONESăNKāLANTED EQUAL TO OR GREATER-THANĠ WITH DOT INSIDEĔLESS-THANĝ WITH DOT INSIDEĈ",
    "NORTH ARROW WITH HOOKED HEADěRIZONTAL TAILăVONIC ASTERISKĂEDăEPING ACCOMMODATIONĉFACEĉSYMBOLąY F",
    "ACEăUTH OR SPYĂICE OF PIZZAăGHTLY FROWNING FACEĉSMILING FACEĂOPEĄING LARGE ANDĎORăT MACHINEĄHāMA",
    "LL AIRPLANEćMPERSANDćSTERISKĆBLUE DIAMONDĆCOLONĈMMAĊERCIAL ATĈNTAINS AS MEMBERďWITH OVERBARĔVERT",
    "ICAL BAR AT END OF HORIZONTAL STROKEĆDOLLAR SIGNĆELEMENT OFĐ WITH OVERBARĖVERTICAL BAR AT END OF",
    " HORIZONTAL STROKEćM DASHćQUALS SIGNćXCLAMATION MARKĆFULL STOPĆGREATER-THAN SIGNĆHYPHEN-MINUSĆID",
    "EOGRAPHIC COMMAĆLEFT CURLY BRACKETċPARENTHESISċTORTOISE SHELL BRACKETĈSS-THAN SIGNĆNUMBER SIGNĆO",
    "RANGE DIAMONDĆPERCENT SIGNćLUS SIGNĆQUESTION MARKĆREVERSE SOLIDUSćIGHT CURLY BRACKETČPARENTHESIS",
    "ČTORTOISE SHELL BRACKETćOMAN NUMERAL EIGHTĕLEVENĔFIFTYĖVEĘ HUNDREDĕOURĔNINEĔONEė HUNDREDĘTHOUSAN",
    "DĔSEVENĕIXĔTENĕHREEĕWELVEĖOĆSEMICOLONĆTILDEćWO DOTS OVER ONE DOT PUNCTUATIONĆVEE WITH UNDERBARąE",
    "R THANČ OR EQUAL TOăSH PRODUCTĂILEĄING CAT FACE WITH HEART-SHAPED EYESĖOPEN MOUTHĈFACE WITH HALO",
    "ēEART-SHAPED EYESēORNSĒOPEN MOUTHĜ AND COLD SWEATġSMILING EYESġTIGHTLY-CLOSED EYESĒSMILING EYESĞ",
    " AND HAND COVERING MOUTHģTHREE HEARTSēUNGLASSESĒTEARăRKING FACEĂOKING SYMBOLāNAILăKEĂEEZING FACE",
    "ĂOW CAPPED MOUNTAINĄBOARDERĄFLAKEĄMANć WITHOUT SNOWāOĂCCER BALLăKSĂFT HYPHENąICE CREAMąSHELL FLO",
    "PPY DISKĄBALLĄWARE-FUNCTION SYMBOLĂGDIAN COMBINING CURVE ABOVEĘBELOWĒDOT ABOVEĖBELOWĒHOOK ABOVEė",
    "BELOWĒLONG HOOK BELOWĒRESH BELOWĒSTROKE BELOWĒTWO DOTS ABOVEěBELOWĈINDEPENDENT SHINĈLETTER ALEPH",
    "ĐYINďBETHďFETHďGIMELďHEđTHďKAPHďLAMEDHĐESHďMEMďNUNďPEďRESH-AYINďSADHEđMEKHĐHINďTAWďWAWďYODHďZAYI",
    "NĈNUMBER ONEĒ HUNDREDďTENĐWENTYĈPUNCTUATION CIRCLE WITH DOTĔHALF CIRCLE WITH DOTĔTWO CIRCLES WIT",
    "H DOTSĘVERTICAL BARSĥ WITH DOTSĂHĂLID QUILT SQUARE ORNAMENTě IN BLACK SQUAREąUSć WITH OVERBARĂM ",
    "SIGNĂON WITH RIGHTWARDS ARROW ABOVEĂRA SOMPENG DIGIT EIGHTēFIVEĔOURēNINEēONEēSEVENĔIXēTHREEĔWOēZ",
    "EROčLETTER AHĔBAHĔCAHĔDAHĔEEHĕHĔGAHĔHAHĔIHĔJAHĔKAHĔLAHĔMAEĖHĔNAHĕGAHĕYAHĔOHĔPAHĔRAHĔSAHĔTAHĔUHĔV",
    "AHĔYAHĂSĂUND RECORDING COPYRIGHTăTH EAST ARROWĐ AND SOUTH WEST ARROWđCROSSING NORTH EAST ARROWđT",
    "O CORNERđWITH HOOKċBLACK ARROWċDOUBLE ARROWċPOINTING BUDĔLEAFĔVINE LEAFċSANS-SERIF ARROWċTRIANGL",
    "E-HEADED ARROWĠ TO BARċWHITE ARROWĆWEST ARROWĐ AND NORTH WEST ARROWđWITH HOOKċBLACK ARROWċDOUBLE",
    " ARROWċPOINTING BUDĔLEAFĔVINE LEAFċSANS-SERIF ARROWċTRIANGLE-HEADED ARROWĠ TO BARċWHITE ARROWĂYO",
    "MBO CLUSTER-INITIAL LETTER LAğRAğSAĠHAĈFINAL CONSONANT SIGN -AĝBĝDĝGĝKĝLĝMĝNĞGĝRĝSĞHĈGEMINATION ",
    "MARKĈHEAD MARK WITH MOON AND SUNģ AND FLAMEĨTRIPLE FLAMEĈLETTER -AďAďBAĐHAďCAĐHAďDAĐDAđHAĐHAĐZAď",
    "GAĐHAďHAďJAĐHAďKAĐHAĐSSAďLAďMAďNAĐGAĐNAĐYAďPAĐHAďRAďSAĐHAĐSAďTAĐHAĐSAđHAĐTAđHAďVAďYAďZAĐHAĈMARK ",
    "DOUBLE SHADčPLUTAčSHADčTSHEGĈSIGN ANUSVARAčJIHVAMULIYAčUPADHMANIYAčVISARGAĉUBJOINERĈTERMINAL MAR",
    "K-1Ė2ĈVOWEL LENGTH MARKĎSIGN AIĔUēEēIēOĔEēUĔEēVOCALIC LěRāPĂAăCEăGHETTIăRKLEćSĆING HEARTĂEAK-NO-",
    "EVIL MONKEYąERć WITH CANCELLATION STROKEčONE SOUND WAVEčTHREE SOUND WAVESąING HEAD IN SILHOUETTE",
    "ăECH BALLOONĄDBOATăSMILO SIGNĂHERICAL ANGLEď OPENING LEFTĘUPĂIDERĆ WEBăRAL CALENDAR PADćNOTE PAD",
    "ćSHELLĂLASHING SWEAT SYMBOLĂONGEăOL OF THREADĄNăRTS MEDALăUTING WHALEāQUARE A OVER MĈARUĈMĈNPEAĈ",
    "PAATOĈRUHUAĈUćBAARERUĉRĈEETAĈIRUĈORUTOĈQĈUSSYERUćC OVER KGĈALĉPĈCĈDĈMĉ CUBEDĊSQUAREDĈOĉRPORATION",
    "ĈUPćDAĉASUĈBĈESIĈJĈLĈMĉ CUBEDĊSQUAREDĈORUćEEKAAĈRA NAME HEISEIĐMEIZIĐREIWAĐSYOUWAĐTAISYOUĉGĈSUKU",
    "UDOĈVćFMĈOOTĉUR CORNERSćGALĉNMAĉRONĈBĈHZĈIGAĉNIIĉRUDAAĈPAĈURAMUčTONĈYćHAĉITUĈEKUTAARUĉRUTUĈGĈIRA",
    "GANA HOKAĈONĉONĊRUĈPĉAĈUARADDOĉIITOĉRANĈZćIMAGE OFď OR EQUAL TOēNOT EQUAL TOĈNĉINGUĉTIĈUćK OHMĈA",
    "ĉIRIĉRATTOĊORIIĈBĈCALĈEESUĈGĈHZĈIROċGURAMUċMEETORUċWATTOĈKĈLĈMĉ CAPITALċUBEDĊSQUAREDĈOOPOĉRUNAĈP",
    "AĈTĈUROONEĊUZEIROĈVĈWĈYURIIćLEFT OPEN BOX OPERATORĈMĈNĈOGĉZENGEĈXćM CUBEDĉOHMĊVER Sď SQUAREDĉSQU",
    "AREDĈAĉHHAĉIKUROĊRUĉNSYONĉRUKUĈBĉ SMALLĈEETORUĉGAċTONĈGĈHZĈIKURONĉLĉRIċBAARUĈLĈMĉ CUBEDĊSQUAREDĈ",
    "OLĈPAĈSĈU AĊFĊGĊLĊMĊSĊVĊWĈVĉ MEGAĈWĉ MEGAćNAĉNOĈFĈMĈOTTOĈSĈVĈWćONSUĈOMUĈRIGINAL OFĒ OR EQUAL TOĖ",
    "NOT EQUAL TOĈVćPAĉ AMPSĉASENTOĊTUĈCĈEEZIĉNIHIĊSUĉSOĈFĈHĈIASUTORUĉKOĊURUĈMĈOINTOĉNDOĉSITION INDIC",
    "ATORĈPMĈRĈSĈVĈWćRADĊ OVER Sđ SQUAREDĈEMUĉNTOGENĈIGHT OPEN BOX OPERATORĉRAĉTTORUĈOOTĈUPIIĉUBURUćS",
    "AIKURUĉNTIIMUĈENTIċOĈIRINGUĈRĈVćTARGETĈHZĈONćUONćV OVER MćWATTOĈBĈITH BOTTOM HALF BLACKČCONTOURE",
    "D OUTLINEČDIAGONAL CROSSHATCH FILLČHORIZONTAL FILLČLEFT HALF BLACKčOWER LEFT DIAGONAL HALF BLACK",
    "ĒRIGHT DIAGONAL HALF BLACKČORTHOGONAL CROSSHATCH FILLČRIGHT HALF BLACKČTOP HALF BLACKČUPPER LEFT",
    " DIAGONAL HALF BLACKėTO LOWER RIGHT FILLĒRIGHT DIAGONAL HALF BLACKĘTO LOWER LEFT FILLČVERTICAL F",
    "ILLćYAADOĊRUĈUANĆD ASTERISKĈCJK UNIFIED IDEOGRAPH-4E00ġ9Ġ2DĠ8CĠA4Ğ518Dğ21DĠ4DĠ72ğ3CCĠF3ğ408Ġ39ğ5",
    "B6ğ8F0ğ91AĠ29ğB57ğDE6ğF8CĞ624BĠ53Ġ95ğ307Ġ55ğ599ĠB0ğ620ğ708ġ9ğE80ğF14Ğ7121ğ51FĠ33ğ981ğA7AğD42Ğ89E",
    "3ğCA9ğD70Ğ904Ağ14DĉLĉOOLĈDOT OPERATORĈEIGHT KĈFALLING DIAGONAL SLASHĉIVE POINT ONEĉOUR DOT PUNCT",
    "UATIONčKĉREEĈHCĉDRĉI-RESĉVĈIDĈKATAKANA DEđKOKOđSAĉEYĈLATIN CAPITAL LETTER AĝBĝCĝDĝEĝFĝGĝHĝIĝJĝKĝ",
    "LĝMĝNĝOĝPĝQĝRĝSĝTĝUĝVĝWĝXĝYĝZĎSMALL LETTER DĉOGICAL ANDĐORĊSSLESSĈMINUSĉVĈNEWĉGĈOKĉNE HUNDRED TW",
    "ENTY PĈPLUSĉPVĈRISING DIAGONAL SLASHĈSALTIREĉDĉECOND SCREENĊVEN POINT ONEĉHVĉIXTY PĉMALL CIRCLEĉ",
    "OSĉQUAREĉSĈTHREE DĉIMESĉWENTY-TWO POINT TWOĊO KĈUHDĉP WITH EXCLAMATION MARKĈVODĉSĈWCĄT BLACK RIG",
    "HTWARDS ARROWăIDāS2Ă3ĂAāTĂADIUMăFF OF AESCULAPIUSĉHERMESăMPED ENVELOPEăNDING PERSONăR AND CRESCE",
    "NTąEQUALSąOF DAVIDĆPERATORąWITH LEFT HALF BLACKĊRIGHT HALF BLACKĄT OF GUARDED AREAĉHEADINGĉPROTE",
    "CTED AREAĉSELECTED AREAĊTRINGĉTEXTăTIONĄUE OF LIBERTYĂEAM LOCOMOTIVEąING BOWLăNOGRAPHIC FULL STO",
    "PăTHOSCOPEĂICK FIGUREČ LEANING LEFTĕRIGHTčWITH ARMS RAISEDĒDRESSĂOCK CHARTăPWATCHĂRAIGHT RULERĈN"]

/-- Part 6 of the front-coded names. -/
def namesPart6 : String := String.join [
    "ESSĄWBERRYăESS OUTLINED WHITE STARăICTLY EQUIVALENT TOĄNG TERMINATORĂSĂUDIO MICROPHONEăFFED FLAT",
    "BREADăPAĂXāUBăSCRIPT EIGHTċQUALS SIGNĊFIVEċOURĊLEFT PARENTHESISĊMINUSĊNINEĊONEĊPLUS SIGNĊRIGHT P",
    "ARENTHESISĊSEVENċIXĊTHREEċWOĊZEROĄET ABOVE RIGHTWARDS ARROWčSUBSETďPERSETćOFĉ ABOVE ALMOST EQUAL",
    " TOĐEQUALS SIGNĐNOT EQUAL TOĐTILDE OPERATORĊOR EQUAL TOĕ WITH DOT ABOVEĊWITH NOT EQUAL TOćWITH D",
    "OTČMULTIPLICATION SIGN BELOWČPLUS SIGN BELOWĄTITUTEĂCCEEDSĈ ABOVE ALMOST EQUAL TOďEQUALS SIGNďNO",
    "T ALMOST EQUAL TOēEQUAL TOďSINGLE-LINE EQUALS SIGNěNOT EQUAL TOĉBUT NOT EQUIVALENT TOĉOR EQUAL T",
    "OďIVALENT TOĉUNDER RELATIONĂMMATION BOTTOMĊTOPĊWITH INTEGRALĂNă BEHIND CLOUDĄWITH FACEăDANESE AV",
    "AGRAHAĊCONSONANT SIGN PAMINGKALěNYAKRAĝIKUěSANGAN MAĢWAĊDIGIT EIGHTĐFIVEđOURĐNINEĐONEĐSEVENđIXĐT",
    "HREEđWOĐZEROĊLETTER AĒEđBAĒHAđCAđDAđEĒUđFAĒINAL KėMđGAđHAđIđJAđKAĒHAđLAĒEUđMAđNAĒGAĒYAđOđPAđQAđR",
    "AĒEUđSAĒYAđTAđUđVAđWAđXAđYAđZAĊPUNCTUATION BINDU BA SATANGAĜCAKRAĜDA SATANGAĜKA SATANGAĜLEU SATA",
    "NGAĜPANGLONGĝURNAMAĜSURYAĊSIGN PAMAAEHđNGLAYARēWISADĒYECEKďVIRAMAĊVOWEL SIGN PAMEPETėNAELAENGĘEU",
    "LEUNGĘGHULUĘOLONGĘYUKUăFLOWERăRISEć OVER MOUNTAINSăSET OVER BUILDINGSĂPERHEROąSCRIPT EIGHTčQUALS",
    " SIGNČFIVEčOURČLATIN SMALL LETTER IğNčEFT PARENTHESISČMINUSČNINEČONEČPLUS SIGNČRIGHT PARENTHESIS",
    "ČSEVENčIXČTHREEčWOČZEROĆET ABOVE LEFTWARDS ARROWďSUBSETđPERSETĉBESIDE AND JOINED BY DASH WITH SU",
    "BSETĐSUBSETĉOFċ ABOVE ALMOST EQUAL TOĒEQUALS SIGNĒNOT EQUAL TOĒTILDE OPERATORČOR EQUAL TOė WITH ",
    "DOT ABOVEČWITH NOT EQUAL TOĉPRECEDING SOLIDUSĉWITH DOTĎMULTIPLICATION SIGN BELOWĎPLUS SIGN BELOW",
    "ąVILLAINĂRFACE INTEGRALĄERĂSHIăPENSION RAILWAYāWANăSH AMPERSAND ORNAMENTĂIMMERĂUNG DASHāYLOTI NA",
    "GRI LETTER AĔBHOĕOĔCHOĕOĔDDHOĖOĕHOĕOĔEĔGHOĕOĔHOĔIĔJHOĕOĔKHOĕOĔLOĔMOĔNOĔOĔPHOĕOĔROĕROĔSOĔTHOĕOĕTH",
    "OĖOĔUčPOETRY MARK-1ę2ę3ę4čSIGN ALTERNATE HASANTAēNUSVARAĒDVISVARAĒHASANTAčVOWEL SIGN AĘEĘIĘOOĘUĂ",
    "MBOL FOR ACKNOWLEDGEċBACKSPACEČELLċCANCELčRRIAGE RETURNċDATA LINK ESCAPEČELETEđ FORM TWOčVICE CO",
    "NTROL FOURĚONEĚTHREEěWOċEND OF MEDIUMĒTEXTēRANSMISSIONĞ BLOCKčQUIRYČSCAPEċFILE SEPARATORČORM FEE",
    "DċGROUP SEPARATORċHORIZONTAL TABULATIONċLINE FEEDċMARKS CHAPTERċNEGATIVE ACKNOWLEDGEčWLINEČULLċR",
    "ECORD SEPARATORċSAMARITAN SOURCEČHIFT INđOUTČPACEČTART OF HEADINGĔTEXTČUBSTITUTEĕ FORM TWOČYNCHR",
    "ONOUS IDLEċTYPE A ELECTRONICSċUNIT SEPARATORċVERTICAL TABULATIONăMETRYĂNăAGOGUEăCHRONOUS IDLEĂRI",
    "AC ABBREVIATION MARKćBARREKHćCOLON SKEWED LEFTĔRIGHTĉNTRACTIONćDOTTED ZLAMA ANGULARĔHORIZONTALćE",
    "ND OF PARAGRAPHĈSASA ABOVEčBELOWćFEMININE DOTćHARKLEAN ASTERISCUSĐMETOBELUSĐOBELUSĈBASA ABOVEčBE",
    "LOWČ-ESASA DOTTEDĈORIZONTAL COLONćLETTER ALAPHĎBETHĎDALATHďOTLESS DALATH RISHĎEĎFINAL SEMKATHĎGA",
    "MALē GARSHUNIĎHEĐTHĎKAPHĎLAMADHĎMALAYALAM BHAĘJAĘLLAĚLAĘNGAęNAĚNAęYAĘRAĘSSAĘTTAďIMĎNUNĎPEĐRSIAN ",
    "BHETHĖDHALATHĖGHAMALĎQAPHĎREVERSED PEďISHĎSADHEďEMKATHďHINďOGDIAN FEĖKHAPHĖZHAINďUPERSCRIPT ALAP",
    "HĎTAWďETHĒ GARSHUNIĎWAWĎYUDHĒ HEĎZAINćMUSICćOBLIQUE LINE ABOVEĔBELOWćPTHAHA ABOVEĎBELOWĎDOTTEDćQ",
    "USHSHAYAćRBASA ABOVEčBELOWĈUKKAKHAĈWAHAćSUBLINEAR COLONĖ SKEWED LEFTĞRIGHTđFULL STOPĉPRALINEAR C",
    "OLONĘ SKEWED LEFTēFULL STOPćTHREE DOTS ABOVEĒBELOWĈWO VERTICAL DOTS ABOVEęBELOWćZQAPHA ABOVEĎBEL",
    "OWĎDOTTEDĄNGEĀT-REXĂSHIRTāABăLE TENNIS PADDLE AND BALLĂCOĂG AMPERSANDąPOSTROPHEąSTERISKĄCIRCUMFL",
    "EX ACCENTąOLONĆMMAĈERCIAL ATĄDIGIT EIGHTĊFIVEċOURĊNINEĊONEĊSEVENċIXĊTHREEċWOĊZEROąOLLAR SIGNĄEQU",
    "ALS SIGNąXCLAMATION MARKĄFULL STOPĄGRAVE ACCENTĆEATER-THAN SIGNĄHYPHEN-MINUSĄLATIN CAPITAL LETTE",
    "R AęBęCęDęEęFęGęHęIęJęKęLęMęNęOęPęQęRęSęTęUęVęWęXęYęZĊSMALL LETTER AėBėCėDėEėFėGėHėIėJėKėLėMėNėO",
    "ėPėQėRėSėTėUėVėWėXėYėZąEFT CURLY BRACKETĉPARENTHESISĉSQUARE BRACKETĆSS-THAN SIGNąOW LINEĄNUMBER ",
    "SIGNĄPERCENT SIGNąLUS SIGNĄQUESTION MARKĆOTATION MARKĄREVERSE SOLIDUSąIGHT CURLY BRACKETĊPARENTH",
    "ESISĊSQUARE BRACKETĄSEMICOLONąOLIDUSąPACEĄTILDEĄVERTICAL LINEăALOG LETTER AĐRCHAIC RAďBAďDAďGAďH",
    "AďIďKAďLAďMAďNAĐGAďPAďRAďSAďTAďUďWAďYAĈSIGN PAMUDPODčVIRAMAĈVOWEL SIGN IēUăBANWA LETTER AĐBAĐDAĐ",
    "GAĐIĐKAĐLAĐMAĐNAđGAĐPAĐSAĐTAĐUĐWAĐYAĉVOWEL SIGN IĔUĂI LE LETTER AďIďUEĎEďEďHĎFAĎHAĎIĎKAďHAĎLAĎMA",
    "ĎNAďGAĎOďOĎPAďHAĎQAĎSAĎTAďHAďONE-2ē3ē4ē5ē6ďSAĐHAĎUďEĎVAĎXAĎYAĄTHAM COMBINING CRYPTOGRAMMIC DOTċN",
    "SONANT SIGN BAĘFINAL NGAĘHIGH RATHA OR LOW PAĘLA TANG LAIęOW PAĘMAęEDIAL LAğRAĘSAĉHORA DIGIT EIG",
    "HTĔFIVEĕOURĔNINEĔONEĔSEVENĕIXĔTHREEĕWOĔZEROĉLETTER AĐBAĐDAĐEEĐGREAT SAĐHIGH CAĖHAĕFAĕHAĕKAĖHAĖXA",
    "ĕPAĖHAĕRATHAĕSAĖHAĖSAĕTAĖHAĕYAĐIđIĐLAĒEđLAđOW CAĕHAĔFAĔHAĔKAĕHAĕXAĔPAĕHAĔRATHAĔSAĔTAĕHAĔYAđUEĐMA",
    "ĐNAđGAđYAĐOOĐRAĒNAĒTAđUEĐUđUĐWAĉSIGN CAANGĎDOKMAIĎHANGďOYĎKAANĒKUUďEOWďHUEN TONE-3ę4ę5ē-LUE KARA",
    "NĎMAI KANGĖ LAIĒSAMĒYAMOKĎRA HAAMďEVERSED ROTATED RANAĎSAKOTĐTKAANĕKUUĐWANĎTONE-1ē2ĎWIANGēWAAKĉT",
    "HAM DIGIT EIGHTĔFIVEĕOURĔNINEĔONEĔSEVENĕIXĔTHREEĕWOĔZEROĉVOWEL SIGN AĕAĕEĕIĔEĔIĕIĔMAI SATĔOĕA AB",
    "OVEėBELOWĕOĕYĔTALL AAĕHAM AIĔUĕEĕUĖEĄVIET LETTER HIGH BOĕCHOĖOĕDOĕFOĕGOĕHOĕKHHOėOĖOĕLOĕMOĕNGOĖOĖ",
    "YOĕOĕPHOĖOĕROĕSOĕTHOĖOĕVOĕYOĐLOW BOĔCHOĕOĔDOĔFOĔGOĔHOĔKHHOĖOĕOĔLOĔMOĔNGOĕOĕYOĔOĔPHOĕOĔROĔSOĔTHOĕ",
    "OĔVOĔYOĉMAI KANGĎHITĉSYMBOL HO HOIĐKOI KOIĒNĐNUENGĐSAMĉTONE MAI EKĒNUENGĒSONGĒTHOĉVOWEL AAĐMĐNĐU",
    "EĐYďEďIĐAďOďUĐAĐEđAĂKEOUT BOXăRI ABBREVIATION SIGNĆDIGIT EIGHTČFIVEčOURČNINEČONEČSEVENčIXČTHREEč",
    "WOČZEROĆLETTER AĎAĎIĎRCHAIC KHAĎUčBAĎHAčCAĎHAčDAĎDAďHAĎHAčEčGAĎHAčHAčIĎIčJAĎHAčKAĎHAčLAčMAčNAĎGA",
    "ĎNAĎYAčOčPAĎHAčRAĎRAčSAĎHAčTAĎHAĎTAďHAčUĎUčVAčYAĆSIGN ANUSVARAċNUKTAċVIRAMAčSARGAĆVOWEL SIGN AAĒ",
    "IĒUđEđIĒIđOđUĒUĂLLY MARK FIVEċONEĂMALEăIL AND ODD SIGNćS ABOVE SIGNćU LENGTH MARKĆCREDIT SIGNćUR",
    "RENT SIGNĆDAY SIGNćEBIT SIGNćIGIT EIGHTČFIVEčOURČNINEČONEČSEVENčIXČTHREEčWOČZEROćRY CULTIVATION ",
    "SIGNĆFRACTION DOWNSCALING FACTOR KIIZHďONE EIGHTHĘIETHēFIFTHĔORTIETHēHALF-1Ę2ēONE-HUNDRED-AND-SI",
    "XTIETHēQUARTERēSIXTEENTH-1ĝ2ėY-FOURTHēTENTHĔHIRTY-SECONDĕREE-HUNDRED-AND-TWENTIETHĔWENTIETHďTHRE",
    "E EIGHTIETHSĕQUARTERSĕSIXTEENTHSęY-FOURTHSĕTWENTIETHSĆIN POSSESSION SIGNĆLAND SIGNćETTER AĎAĎIĎU",
    "čCAčEĎEčHAčIĎIčJAčKAčLAĎLAďLAčMAčNAĎGAĎNAďNAĎYAčOĎOčPAčRAĎRAčSAĎHAĎSAčTAĎTAčUĎUčVAčYAĆMONTH SIGN",
    "ĆNUMBER ONE HUNDREDđTHOUSANDčSIGNčTENĆOMĆPUNCTUATION END OF TEXTĆRUPEE SIGNĆSALT PAN SIGNćIGN AA",
    "ZHAAKKUČNUSVARAċCEVITUċKAACUČURUNIčZHIċMUKKURUNIčTHALIYAčUVUZHAKKUċNELċPAARAMčNAMčTHAKKUČONċUZHA",
    "KKUċVAKAIYARAAčRAAKANČELIČIRAMAčSARGAćPENT SIGNćTARTING FROM SIGNĆTOTAL SIGNćRADITIONAL CREDIT S",
    "IGNĒNUMBER SIGNĆVOWEL SIGN AAĒIĒUđEĒEđIĒIđOĒOđUĒUĆWET CULTIVATION SIGNĆYEAR SIGNĂNABATA TREEăGER",
    "INEĄSA DIGIT EIGHTčFIVEĎOURčNINEčONEčSEVENĎIXčTHREEĎWOčZEROćLETTER ACďQďWCĐQĐXĐZďXďZĎBAĎCAďHAĎDA",
    "ďHAĎECďQďXďZĎFAďINAL NGĎGAďHAĎHAďTAĐTAĎICďQďXďZĎKAďHAĎLAďONG UEXĎMAďCďQďXďZĎNAďGAďHAďYAĎOCďQďXďZ",
    "ĎPAďHAĎRAĎSAďHAĐORT AWXĔUEZĎTAďHAďSAĎUCďECĐQĐXĐZďICĐQĐUCđQđXđZĐXĐZďQďXďZĎVCďQďXďZĎWAĎXAĎYAĎZAĄUT",
    " COMPONENT-001ē2ē3ē4ē5ē6ē7ē8ē9Ē10ē1ē2ē3ē4ē5ē6ē7ē8ē9Ē20ē1ē2ē3ē4ē5ē6ē7ē8ē9Ē30ē1ē2ē3ē4ē5ē6ē7ē8ē9Ē40",
    "ē1ē2ē3ē4ē5ē6ē7ē8ē9Ē50ē1ē2ē3ē4ē5ē6ē7ē8ē9Ē60ē1ē2ē3ē4ē5ē6ē7ē8ē9Ē70ē1ē2ē3ē4ē5ē6ē7ē8ē9Ē80ē1ē2ē3ē4ē5ē6",
    "ē7ē8ē9Ē90ē1ē2ē3ē4ē5ē6ē7ē8ē9đ100ē1ē2ē3ē4ē5ē6ē7ē8ē9Ē10ē1ē2ē3ē4ē5ē6ē7ē8ē9Ē20ē1ē2ē3ē4ē5ē6ē7ē8ē9Ē30ē1",
    "ē2ē3ē4ē5ē6ē7ē8ē9Ē40ē1ē2ē3ē4ē5ē6ē7ē8ē9Ē50ē1ē2ē3ē4ē5ē6ē7ē8ē9Ē60ē1ē2ē3ē4ē5ē6ē7ē8ē9Ē70ē1ē2ē3ē4ē5ē6ē7",
    "ē8ē9Ē80ē1ē2ē3ē4ē5ē6ē7ē8ē9Ē90ē1ē2ē3ē4ē5ē6ē7ē8ē9đ200ē1ē2ē3ē4ē5ē6ē7ē8ē9Ē10ē1ē2ē3ē4ē5ē6ē7ē8ē9Ē20ē1ē2",
    "ē3ē4ē5ē6ē7ē8ē9Ē30ē1ē2ē3ē4ē5ē6ē7ē8ē9Ē40ē1ē2ē3ē4ē5ē6ē7ē8ē9Ē50ē1ē2ē3ē4ē5ē6ē7ē8ē9Ē60ē1ē2ē3ē4ē5ē6ē7ē8",
    "ē9Ē70ē1ē2ē3ē4ē5ē6ē7ē8ē9Ē80ē1ē2ē3ē4ē5ē6ē7ē8ē9Ē90ē1ē2ē3ē4ē5ē6ē7ē8ē9đ300ē1ē2ē3ē4ē5ē6ē7ē8ē9Ē10ē1ē2ē3",
    "ē4ē5ē6ē7ē8ē9Ē20ē1ē2ē3ē4ē5ē6ē7ē8ē9Ē30ē1ē2ē3ē4ē5ē6ē7ē8ē9Ē40ē1ē2ē3ē4ē5ē6ē7ē8ē9Ē50ē1ē2ē3ē4ē5ē6ē7ē8ē9",
    "Ē60ē1ē2ē3ē4ē5ē6ē7ē8ē9Ē70ē1ē2ē3ē4ē5ē6ē7ē8ē9Ē80ē1ē2ē3ē4ē5ē6ē7ē8ē9Ē90ē1ē2ē3ē4ē5ē6ē7ē8ē9đ400ē1ē2ē3ē4",
    "ē5ē6ē7ē8ē9Ē10ē1ē2ē3ē4ē5ē6ē7ē8ē9Ē20ē1ē2ē3ē4ē5ē6ē7ē8ē9Ē30ē1ē2ē3ē4ē5ē6ē7ē8ē9Ē40ē1ē2ē3ē4ē5ē6ē7ē8ē9Ē5",
    "0ē1ē2ē3ē4ē5ē6ē7ē8ē9Ē60ē1ē2ē3ē4ē5ē6ē7ē8ē9Ē70ē1ē2ē3ē4ē5ē6ē7ē8ē9Ē80ē1ē2ē3ē4ē5ē6ē7ē8ē9Ē90ē1ē2ē3ē4ē5ē",
    "6ē7ē8ē9đ500ē1ē2ē3ē4ē5ē6ē7ē8ē9Ē10ē1ē2ē3ē4ē5ē6ē7ē8ē9Ē20ē1ē2ē3ē4ē5ē6ē7ē8ē9Ē30ē1ē2ē3ē4ē5ē6ē7ē8ē9Ē40ē",
    "1ē2ē3ē4ē5ē6ē7ē8ē9Ē50ē1ē2ē3ē4ē5ē6ē7ē8ē9Ē60ē1ē2ē3ē4ē5ē6ē7ē8ē9Ē70ē1ē2ē3ē4ē5ē6ē7ē8ē9Ē80ē1ē2ē3ē4ē5ē6ē",
    "7ē8ē9Ē90ē1ē2ē3ē4ē5ē6ē7ē8ē9đ600ē1ē2ē3ē4ē5ē6ē7ē8ē9Ē10ē1ē2ē3ē4ē5ē6ē7ē8ē9Ē20ē1ē2ē3ē4ē5ē6ē7ē8ē9Ē30ē1ē",
    "2ē3ē4ē5ē6ē7ē8ē9Ē40ē1ē2ē3ē4ē5ē6ē7ē8ē9Ē50ē1ē2ē3ē4ē5ē6ē7ē8ē9Ē60ē1ē2ē3ē4ē5ē6ē7ē8ē9Ē70ē1ē2ē3ē4ē5ē6ē7ē",
    "8ē9Ē80ē1ē2ē3ē4ē5ē6ē7ē8ē9Ē90ē1ē2ē3ē4ē5ē6ē7ē8ē9đ700ē1ē2ē3ē4ē5ē6ē7ē8ē9Ē10ē1ē2ē3ē4ē5ē6ē7ē8ē9Ē20ē1ē2ē",
    "3ē4ē5ē6ē7ē8ē9Ē30ē1ē2ē3ē4ē5ē6ē7ē8ē9Ē40ē1ē2ē3ē4ē5ē6ē7ē8ē9Ē50ē1ē2ē3ē4ē5ē6ē7ē8ē9Ē60ē1ē2ē3ē4ē5ē6ē7ē8ć",
    "ITERATION MARKĂPE CARTRIDGEąDRIVEĂURUSĂXIāEACUP WITHOUT HANDLEăPOTăR-OFF CALENDARĄDROP-BARBED RI",
    "GHTWARDS ARROWĉSPOKED ASTERISKĂDDY BEARĂLEPHONE LOCATION SIGNĊON TOP OF MODEMĊRECEIVERĒ WITH PAG",
    "EčORDERĊSIGNĄSCOPEĄVISIONăUGU AI LENGTH MARKćDIGIT EIGHTčFIVEĎOURčNINEčONEčSEVENĎIXčTHREEĎWOčZER",
    "OćFRACTION DIGIT ONE FOR EVEN POWERS OF FOURĞODD POWERS OF FOURĖTHREE FOR EVEN POWERS OF FOURĠOD",
    "D POWERS OF FOURėWO FOR EVEN POWERS OF FOURĞODD POWERS OF FOURĖZERO FOR ODD POWERS OF FOURćLENGT",
    "H MARKĉTTER AďAďIďUĎBAďHAĎCAďHAĎDAďDAĐHAďHAďZAĎEďEĎGAďHAĎHAĎIďIĎJAďHAĎKAďHAĎLAďLAĐLAĎMAĎNAĐKAARA",
    " POLLUďGAďNAďYAĎOďOĎPAďHAĎRAďRAĐRAĎSAďHAďSAĎTAďHAďSAďTAĐHAĎUďUĎVAďOCALIC LėLĖRėRĎYAćSIGN ANUSVAR",
    "AčVAGRAHAČCANDRABINDUčOMBINING ANUSVARA ABOVEĖCANDRABINDU ABOVEČNUKTAČSIDDHAMČTUUMUČVIRAMAĎSARGA",
    "ćVOWEL SIGN AAēIēUĒEēEĒIēIĒOēOĒUēUĒVOCALIC LěLĚRěRĂNGE SIGNăNIS RACQUET AND BALLăTĂST TUBEĂTRAGR",
    "AM FOR ACCUMULATIONďDVANCEďGGRAVATIONďSCENTĎBARRIERďOLD RESOLUTIONďRANCHING OUTĎCENTREďHANGEďLOS",
    "ED MOUTHēNESSĒUREďOMPLETIONēIANCEĐNSTANCYđTACTĒENTIONĒRARIETYĎDARKENINGďECISIVENESSĐFECTIVENESS ",
    "OR DISTORTIONĐPARTUREďIFFICULTIESĐMINISHMENTđMINGĐVERGENCEďOUBTďUTIESĎEASEďMBELLISHMENTďNCOUNTER",
    "SĐDEAVOURĐLARGEMENTďTERNITYďXHAUSTIONĎFAILUREďLIGHTďOLLOWINGĐSTERINGďULL CIRCLEĒNESSĎGATHERINGė ",
    "INďOING TO MEETďREATNESSďUARDEDNESSĎHARDNESSďOLDING BACKĎINCREASEĐNERĎJOYĎKEEPING SMALLďINSHIPĎL",
    "ABOURINGĐW OR MODELďEGIONĎMASSINGďEASUREďIREDĎON THE VERGEďPPOSITIONĎPACKINGĐTTERNďENETRATIONďUR",
    "ITYĎREACHĐLEASEĐSIDENCEĒSTANCEđPONSEďITUALĎSEVERANCEďINKINGďTOPPAGEđVEĐRENGTHĎUNITYĎVASTNESS OR ",
    "WASTINGĎWAITINGĐTCHĎYOUTHFULNESSāHAANA AABAAFILIĈBAFILIćEBEFILIĈEBEEFILIĈYBEYFILIćIBIFILIćLETTER",
    " AINUďLIFUĎBAAĎCHAVIYANIĎDAADHUĐVIYANIďHAALUĎFAAFUĎGAAFUďHAINUďNAVIYANIĎHAAďHAAĎJAVIYANIĎKAAFUďH",
    "AAĎLAAMUďHAVIYANIĎMEEMUĎNAAďOONUĎPAVIYANIĎQAAFUĎRAAĎSAADHUďEENUďHAVIYANIĐEENUĎTAVIYANIďHAAĒLUďOď",
    "TAAĎVAAVUĎWAAVUĎYAAĎZAAĐVIYANIďOćOABOAFILIĈBOFILIĈOBOOFILIćSUKUNćUBUFILIăI CHARACTER ANGKHANKHUď",
    "BO BAIMAIďCHO CHANėGĕINGĕOEďDO CHADAĒDEKďFO FAĔNđNGMANďHO HIPĒNOKHUKďKHO KHAIĕONĕUATĕWAIēRAKHANG",
    "ĒMUTĐO KAIďLAKKHANGYAOĐO CHULAĒLINGĐUďMAI CHATTAWAēEKēHAN-AKATēTHOĔRIĒTAIKHUĒYAMOKĐO MAďNGO NGUĐ",
    "IKHAHITĐO NENēUďO ANGďPAIYANNOIĐHINTHUđO PHANĕUNGēSAMPHAOĐO PLAďRO RUAĐUďSARA AĕAĕEĕI MAIMALAIěU",
    "ANĕMĔEĔIĕIĔOĔUĕEĖEĕUĐO RUSIĒSALAēOēUAďTHANTHAKHATđO NANGMONTHOēPHUTHAOēTHAHANĖNĕONGĕUNGĐO PATAKĒ",
    "TAOďWO WAENďYAMAKKANĐO YAKēINGĆURRENCY SYMBOL BAHTąDIGIT EIGHTċFIVEČOURċNINEċONEċSEVENČIXċTHREEČ",
    "WOċZEROĂERE DOES NOT EXISTĆEXISTSąFOREĄMODYNAMICĆMETERĂIN GREEK CROSSąSALTIREĆPACEĄKING FACEăRD ",
    "PLACE MEDALĂONG SANDALăUGHT BALLOONĂREE BUTTON MOUSEĆCONSECUTIVE EQUALS SIGNSĆDIMENSIONAL ANGLEć",
    "OT PUNCTUATIONĆLEFTWARDS ARROWSćINES CONVERGING LEFTėRIGHTĆNETWORKED COMPUTERSĆPOINTED BLACK STA",
    "RĆRAYS ABOVEċBELOWċLEFTċRIGHTćIGHTWARDS ARROWSĆSPEECH BUBBLESą-D BOTTOM-LIGHTED RIGHTWARDS ARROW",
    "HEADĈLEFT-LIGHTED DOWNWARDS EQUILATERAL ARROWHEADĈRIGHT-LIGHTED UPWARDS EQUILATERAL ARROWHEADĈTO",
    "P-LIGHTED LEFTWARDS EQUILATERAL ARROWHEADĔRIGHTWARDS ARROWHEADğEQUILATERAL ARROWHEADĆEM DASHĆPER",
    "-EM SPACEĂUMBS DOWN SIGNćUP SIGNăNDER CLOUD AND RAINćSTORMāIBETAN ASTROLOGICAL SIGN -KHYUD PAĚSD",
    "ONG TSHUGSěGRA GCAN -CHAR RTAGSĈCANTILLATION SIGN CANG TE-UĚHEAVY BEATĚLIGHT BEATĚSBUB -CHALĈDIG",
    "IT EIGHTĎFIVEďOURĎHALF EIGHTēFIVEĔOURēNINEēONEēSEVENĔIXēTHREEĔWOēZEROĎNINEĎONEĎSEVENďIXĎTHREEďWO",
    "ĎZEROĈKU RU KHAđ BZHI MIG CANĈLETTER -AďAďBAĐHAďCAĐHAďDAĐDAđHAĐHAĐZAđHAďFIXED-FORM RAďGAĐHAďHAďJ",
    "AďKAĐHAĐKAĐSSAďLAďMAďNAĐGAĐNAĐYAďPAĐHAďRAĐRAďSAĐHAĐSAďTAĐHAĐSAđHAĐTAđHAďWAďYAďZAĐHAĉOGOTYPE SIGN",
    " CHAD RTAGSĖLHAG RTAGSĈMARK ANG KHANG GYASęONčBKA- SHOG GI MGO RGYANėYIG MGOĎSDUS RTAGSďKA- SHOG",
    " GI MGO RGYANĐUR YIG MGOčCARET -DZUD RTAGS BZHI MIG CANğME LONG CANēYIG MGO PHUR SHAD MAĎHE MGOĎ",
    "LOSING BRDA RNYING YIG MGO SGAB MAĕYIG MGO SGAB MAčDELIMITER TSHEG BSTARčGTER TSHEGĒYIG MGO -UM ",
    "GTER TSHEG MAĞRNAM BCAD MAĚTRUNCATED AĎUG RTAGS GYASęONčHALANTAčINITIAL BRDA RNYING YIG MGO MDUN",
    " MAĕYIG MGO MDUN MAďTERSYLLABIC TSHEGčLEADING MCHAN RTAGSčMNYAM YIG GI MGO RGYANčNGAS BZUNG NYI ",
    "ZLAĘSGOR RTAGSĎYIS SHADĒTSHEGė SHADčPALUTAčRGYA GRAM SHADĎIN CHEN SPUNGS SHADčSBRUL SHADĎHADčTRA",
    "ILING MCHAN RTAGSĎSA -PHRUďHEG SHADčYIG MGO TSHEG SHAD MAĈSIGN GRU CAN RGYINGSđMED RGYINGSčINVER",
    "TED MCHU CANčLCE TSA CANďI RTAGSčMAR TSHESĎCHU CANčNYI ZLA NAA DAčRDEL DKAR GCIGĘNYISĘSUMėRDEL N",
    "AGĒNAG GCIGėNYISėSUMĖRDEL DKARĎJES SU NGA ROĎNAM BCADčSNA LDANčYANG RTAGSďR TSHESĉUBJOINED LETTE",
    "R -AęAęBAĚHAęCAĚHAęDAĚDAěHAĚHAĚZAěHAęFIXED-FORM RAĤWAĤYAęGAĚHAęHAęJAęKAĚHAĚSSAęLAęMAęNAĚGAĚNAĚYA",
    "ęPAĚHAęRAęSAĚHAĚSAęTAĚHAĚSAěHAĚTAěHAęWAęYAęZAĚHAĒSIGN INVERTED MCHU CANėLCE TSA CANėMCHU CANĉYLL",
    "ABLE OMĊMBOL DRIL BUďNOR BUĕ BZHI -KHYILĖGSUM -KHYILĖNYIS -KHYILďPADMA GDANĐHUR PAďRDO RJEĖ RGYA",
    " GRAMĈVOWEL SIGN AAēEĔEēIĔIēOĔOēREVERSED IĝIēUĔUēVOCALIC LĜLěRĜRĂCKETĂE OVER INFINITYĂFINAGH CON",
    "SONANT JOINERĉLETTER AHAGGAR YAZHđYER YAGHĐBERBER ACADEMY YAHġJĐTAWELLEMET YAZđUAREG YAGHĚNęHęKĚ",
    "HęNGęQęZHĐYAĒAĒBēHĒCHĒDēDĔHēHĒFĒGēHĔHĒHēHĒJĒKēHĔHĒLĒMĒNĒPĒQĒRēRĒSēHēSĒTēHēTĒVĒWĒYĒZēHēZđEĒYđIđOđ",
    "UĉMODIFIER LETTER LABIALIZATION MARKĉSEPARATOR MARKĂGERą FACEăHT TRIFOLIATE SNOWFLAKEĂLDEą OPERA",
    "TORĎ ABOVE LEFTWARDS ARROWĕRIGHTWARDS ARROWďWITH DOT ABOVEĔRISING DOTSĆWITH DOT ABOVEďBELOWċRING",
    " ABOVEĂMER CLOCKĄS WITH LEFT HALF BLACKċRIGHT HALF BLACKĂNYĄ TWO DOTS OVER ONE DOT PUNCTUATIONĂR",
    "ED FACEăHUTA ABBREVIATION SIGNĉNJIĈDIGIT EIGHTĎFIVEďOURĎNINEĎONEĎSEVENďIXĎTHREEďWOĎZEROĈGVANGĈLE",
    "TTER AĐAĐIĐUďBAĐHAďCAĐHAďDAĐDAđHAĐHAďEďGAĐHAďHAďIĐIďJAĐHAďKAĐHAďLAďMAďNAĐGAĐNAĐYAďOďPAĐHAďRAďSAĐ",
    "HAĐSAďTAĐHAĐTAđHAďUĐUďVAĐOCALIC LĘLėRĘRďYAĈOMĈSIGN ANUSVARAĎVAGRAHAčCANDRABINDUčNUKTAčVIRAMAďSAR",
    "GAĈVOWEL SIGN AAĔIĔUēEēIĔIēOēSHORT EęOēUĔUēVOCALIC LĜLěRĜRăONIAN SIGN CAPITAL ETĎETāOILETĂKYO TO",
    "WERĂMATOĂNGUEĂOLBOXăTHąBRUSHĂP ARC ANTICLOCKWISE ARROWě WITH PLUSĈCLOCKWISE ARROW WITH MINUSĄCUR",
    "LY BRACKETĄHALF BLACK CIRCLEĉINTEGRALĉLEFT PARENTHESISĉRIGHT PARENTHESISĉSECTION SIGNĆTĄLEFT COR",
    "NERĊROPĉHALF BRACKETĄPARENTHESISĄRIGHT CORNERċROPĊHALF BRACKETĄSQUARE BRACKETĄTORTOISE SHELL BRA",
    "CKETĄWITH UPWARDS ARROW ABOVEĂRTOISE SHELL BRACKETED CJK UNIFIED IDEOGRAPH-4E09ı8Cį52DDİB89į6253",
    "İ557İ72Cį70B9İ6D7ęLATIN CAPITAL LETTER SĂTAL RUNOUTăO LETTER AčEČBAčREATHY AEĔEĕOĔIĕUČCHAČDAČEčO",
    "ČGAČHAČIčUČJAČKAČLAČMAČNAčGAČOČPAČRAČSAČTAČUČWAČYAąSIGN RISING TONEāRACKBALLĄTORăDE MARK SIGNăIN",
    "ăMĄ CARăNSPLUTOąVERSAL INTERSECTIONĂIANGLE WITH DOT ABOVEĎROUNDED CORNERSĎSERIFS AT BOTTOMĎUNDER",
    "BARĈ-HEADED RIGHTWARDS ARROWĆULAR BULLETċFLAG ON POSTċRULERăCOLONăDENT EMBLEMăGRAM FOR EARTHČFIR",
    "EČHEAVENČLAKEČMOUNTAINČTHUNDERČWATERčINDăPLE COLON OPERATORćDAGGERćHORIZONTAL BAR WITH DOUBLE VE",
    "RTICAL STROKEěTRIPLE VERTICAL STROKEćINTEGRALćNESTED GREATER-THANĎLESS-THANćPLUSĈRIMEćSOLIDUS BI",
    "NARY RELATIONćTILDEćVERTICAL BAR BINARY RELATIONĔDELIMITERĔRIGHT TURNSTILEĔWITH HORIZONTAL STROK",
    "EĂOLLąEYBUSăPHYĄICAL DRINKĉFISHĂUEĄ LIGHT MOON ARTAăMPETāUGRIK SIGNĂLIPĂMBLER GLASSĂRKEYĄISH LIR",
    "A SIGNăNED AMPERSANDĈNGLEćBLACK PENTAGONčSHOGI PIECEćCAPITAL FĈOMMAćDAGGERĈIGIT THREEĎWOćGREEK S",
    "MALL LETTER IOTAćNORTH EAST POINTING LEAFčWEST POINTING LEAFĉT SIGNćOK HAND SIGNćSANS-SERIF CAPI",
    "TAL GĚLĚYĈEMICOLONĈMALL FĈOUTH EAST POINTING LEAFčWEST POINTING LEAFćWHITE SHOGI PIECEăTLEāWELVE",
    " POINTED BLACK STARĂISTED RIGHTWARDS ARROWSĂO ASTERISKS ALIGNED VERTICALLYĄBUTTON MOUSEĄCONSECUT",
    "IVE EQUALS SIGNSĄDOT LEADERĈPUNCTUATIONćS OVER ONE DOT PUNCTUATIONĄHEARTSĄINTERSECTING LOGICAL A",
    "NDęORĄJOINED SQUARESĄLOGICAL AND OPERATORČOR OPERATORĄMEN HOLDING HANDSĄSPEECH BUBBLESĄWOMEN HOL",
    "DING HANDSă-EM DASHĀUGARITIC LETTER AINđLPAĐBETAĐDELTAđHALĐGAMLAđHAINĐHOĒTAĐIĐKAFđHAĐLAMDAĐMEMĐN",
    "UNĐPUĐQOPAĐRASHAĐSADEĒMKAđHINđSUĐTETđHANNAđOĐUĐWOĐYODĐZETAđUĉWORD DIVIDERāMBRELLAĈ ON GROUNDĉWIT",
    "H RAIN DROPSāNAMUSED FACEĂCERTAINTY SIGNĂDERTIEăO SYMBOLĂICORN FACEăONą ABOVE BAR ABOVE INTERSEC",
    "TIONČINTERSECTIONĆBESIDE AND JOINED WITH UNIONĆWITH LOGICAL ORċMINUS SIGNċOVERBARăT SEPARATORĄED",
    " SYMBOLăVERSAL RECYCLING SYMBOLĂMARRIED PARTNERSHIP SYMBOLāP ARROW THROUGH CIRCLEĈHEADČ BETWEEN ",
    "TWO HORIZONTAL BARSčIN A RECTANGLE BOXăBARB LEFT DOWN BARB LEFT HARPOONėRIGHT HARPOONĈRIGHT DOWN",
    " BARB LEFT HARPOONĘRIGHT HARPOONăDOWN ARROWč WITH BASEĈBLACK ARROWĈDOUBLE ARROWĈSANS-SERIF ARROW",
    "ĈTRIANGLE-HEADED ARROWĈWHITE ARROWăFISH TAILăRIGHT DIAGONAL ELLIPSISăTACKć WITH CIRCLE ABOVEĂ-PO",
    "INTING AIRPLANEČMILITARY AIRPLANEČRED TRIANGLEČSMALL AIRPLANEĒRED TRIANGLEČTRIANGLE WITH LEFT HA",
    "LF BLACKĚRIGHT HALF BLACKĂPER AND LEFT AND LOWER TRIANGULAR THREE QUARTERS BLOCKċOWER ONE EIGHTH",
    " BLOCKĐTRIANGULAR HALF BLOCKĊRIGHT AND LOWER TRIANGULAR THREE QUARTERS BLOCKĆBLADE SCISSORSĆFIVE",
    " EIGHTHS BLOCKĆHALF BLOCKĐ AND LOWER HALF INVERSE MEDIUM SHADEċCIRCLEċINVERSE MEDIUM SHADE AND L",
    "OWER HALF BLOCKēWHITE CIRCLEċMEDIUM SHADEĆLEFT BLOCK DIAGONAL LOWER CENTRE TO LOWER MIDDLE RIGHT",
    "ĪUPPER MIDDLE RIGHTİRIGHTĠLEFT TO LOWER MIDDLE RIGHTĨUPPER CENTREĮMIDDLE RIGHTĠMIDDLE LEFT TO UP",
    "PER CENTREĵMIDDLE RIGHTĵRIGHTĚUPPER MIDDLE LEFT TO UPPER CENTREĵRIGHTċCORNER WITH DOTċOR LOWER R",
    "IGHT CURLY BRACKET SECTIONċQUADRANT CIRCULAR ARCċTO LOWER RIGHT FILLČRIANGLEđULAR MEDIUM SHADEĆO",
    "NE EIGHTH BLOCKĊQUARTER BLOCKĆRIGHT BLOCK DIAGONAL LOWER MIDDLE LEFT TO LOWER CENTREĶRIGHTěUPPER",
    " CENTRE TO LOWER MIDDLE RIGHTıRIGHTīUPPER MIDDLE RIGHTġLEFT TO LOWER CENTREįMIDDLE RIGHTĩUPPER M",
    "IDDLE RIGHTġMIDDLE LEFT TO LOWER CENTREĶMIDDLE RIGHTĶRIGHTČDROP-SHADOWED WHITE SQUAREČOR LOWER L",
    "EFT CURLY BRACKET SECTIONČPENCILČQUADRANT CIRCULAR ARCČSHADOWED WHITE CIRCLEěSQUAREČTO LOWER LEF",
    "T FILLčRIANGLEĒULAR MEDIUM SHADEĆSEVEN EIGHTHS BLOCKĆTHREE EIGHTHS BLOCKČQUARTERS BLOCKćRIANGULA",
    "R ONE QUARTER BLOCKĂSIDE-DOWN FACEĂWARDS ANCORAĉRROWč AND RIGHT ONE EIGHTH BLOCKĎFROM BARĎLEFTWA",
    "RDS OF DOWNWARDS ARROWĎTO BARĎWITH DOUBLE STROKEēEQUILATERAL ARROWHEADēHORIZONTAL STROKEēLARGE T",
    "RIANGLE ARROWHEADēMEDIUM TRIANGLE ARROWHEADēNOTCHED TAILēSMALL EQUILATERAL ARROWHEADęTRIANGLE AR",
    "ROWHEADēTIP LEFTWARDSėRIGHTWARDSĈBLACK ARROWĎCIRCLED WHITE ARROWĈCOMPRESSED ARROWĈDASHED ARROWĉO",
    "UBLE ARROWĈFINGER-POST ARROWĈHARPOON WITH BARB LEFT BESIDE DOWNWARDS HARPOON WITH BARB RIGHTĦUPW",
    "ARDS HARPOON WITH BARB RIGHTğFROM BARğTO BARĞWARDSĚRIGHT FROM BARĠTO BARğWARDSĉEAVY ARROWĎCOMPRE",
    "SSED ARROWĈPAIRED ARROWSĈQUADRUPLE ARROWĈROCKETĈSANS-SERIF ARROWĉQUARED ARROWĈTRIANGLE ARROWHEAD",
    "Đ-HEADED ARROWĝ LEFTWARDS OF DOWNWARDS TRIANGLE-HEADED ARROWĞTO BARĞWITH BOLD SHAFTģDOUBLE HORIZ",
    "ONTAL STROKEģHEAVY SHAFTģLONG TIP LEFTWARDSĬRIGHTWARDSģMEDIUM SHAFTģNARROW SHAFTģVERY HEAVY SHAF",
    "TĘDASHED ARROWĘPAIRED ARROWSċPLE ARROWĉWO HEADED ARROWċ-HEADED ARROW FROM SMALL CIRCLEęWITH TRIA",
    "NGLE ARROWHEADSĈWHITE ARROWē FROM BARĜ WITH HORIZONTAL BARĔON PEDESTALğ WITH HORIZONTAL BARĥVERT",
    "ICAL BARĔWITHIN TRIANGLE ARROWHEADĎDOUBLE ARROWĚ ON PEDESTALāRANUSāSĀVAI COMMAĄDIGIT EIGHTĊFIVEċ",
    "OURĊNINEĊONEĊSEVENċIXĊTHREEċWOĊZEROĄFULL STOPĄQUESTION MARKĄSYLLABLE AĎNčBAĎEďEĎHAďEĐEďIďOĐOďUĎI",
    "ĎOďOĎUčCAĎEďEĎIĎOďOĎUčDAĎEďEĎHAďEĐEďHAĐEđEĐIĐOđOĐUďIďOĐOďUĎIĎOďOĎUčEĎEďNĎNčFAĎEďEĎIĎOďOĎUčGAĎBAď",
    "EĐEĐNďIďOĐNĐOďUĎEďEďNĎIĎOďOĎUčHAďNĎEďEďNĎIďNĎOďNďOĎUďNčIĎNčJAĎEďEĎIĎOďOĎUčKAďNĎEďEĎIĎOďOĎPAĐNďEĐ",
    "EĐNďIďOĐOďUĎUčLAĎEďEďNGTHENERĎIĎOďOĎUčMAĎBAďEĐEďIďOĐOďUĎEďEĎGBAĐEđEĐIĐOđOĐUĎIĎOďOĎUčNAĎDAďEĐEďIď",
    "OĐLE DOēFAēKAēMAēSOOĐOďUĎEďEĎGďANďENďGAĐEđEđNĐIĐOđOĐUďONĎIĎJAďEĐEďIďOĐOďUĎOďOĎUĎYAďEĐEďIďOĐOďUčO",
    "ĎNĎOďNčPAĎEďEĎIĎOďOĎUčRAĎEďEĎIĎOďOĎUčSAĎEďEĎHAďEĐEďIďOĐOďUĎIĎOďOĎUčTAĎEďEĎHAďEĐEďIďOĐOďUĎIĎOďOĎU",
    "čUĎNčVAĎEďEĎIĎOďOĎUčWAďNĎEďEĐNďNĎIďNĎOďNďOĐNĎUďNčYAĎEďEĎIĎOďOĎUčZAĎEďEĎHAďEĐEďIďOĐOďUĎIĎOďOĎUĆMB",
    "OL BANGċDANGČO-OčONGċFAAČEENGċJONGċKEENGČUNGċNIIċTAAČINGČONGĂMPIREĂRIATION SELECTOR-1Ĕ0ĕ0ĕ1ĕ2ĕ3ĕ",
    "4ĕ5ĕ6ĕ7ĕ8ĕ9Ĕ1ĕ0ĕ1ĕ2ĕ3ĕ4ĕ5ĕ6ĕ7ĕ8ĕ9Ĕ2ĕ0ĕ1ĕ2ĕ3ĕ4ĕ5ĕ6ĕ7ĕ8ĕ9Ĕ3ĕ0ĕ1ĕ2ĕ3ĕ4ĕ5ĕ6ĕ7ĕ8ĕ9Ĕ4ĕ0ĕ1ĕ2ĕ3ĕ4ĕ5ĕ6ĕ7ĕ",
    "8ĕ9Ĕ5ĕ0ĕ1ĕ2ĕ3ĕ4ĕ5ĕ6ĕ7ĕ8ĕ9Ĕ6ĕ0ĕ1ĕ2ĕ3ĕ4ĕ5ĕ6ĕ7ĕ8ĕ9Ĕ7ĕ0ĕ1ĕ2ĕ3ĕ4ĕ5ĕ6ĕ7ĕ8ĕ9Ĕ8ĕ0ĕ1ĕ2ĕ3ĕ4ĕ5ĕ6ĕ7ĕ8ĕ9Ĕ9ĕ0ĕ",
    "1ĕ2ĕ3ĕ4ĕ5ĕ6ĕ7ĕ8ĕ9ē2Ĕ0ĕ0ĕ1ĕ2ĕ3ĕ4ĕ5ĕ6ĕ7ĕ8ĕ9Ĕ1ĕ0ĕ1ĕ2ĕ3ĕ4ĕ5ĕ6ĕ7ĕ8ĕ9Ĕ2ĕ0ĕ1ĕ2ĕ3ĕ4ĕ5ĕ6ĕ7ĕ8ĕ9Ĕ3ĕ0ĕ1ĕ2ĕ3ĕ",
    "4ĕ5ĕ6ĕ7ĕ8ĕ9Ĕ4ĕ0ĕ1ĕ2ĕ3ĕ4ĕ5ĕ6ĕ7ĕ8ĕ9Ĕ5ĕ0ĕ1ĕ2ĕ3ĕ4ĕ5ĕ6Ĕ6Ĕ7Ĕ8Ĕ9ē3Ĕ0Ĕ1Ĕ2Ĕ3Ĕ4Ĕ5Ĕ6Ĕ7Ĕ8Ĕ9ē4Ĕ0Ĕ1Ĕ2Ĕ3Ĕ4Ĕ5Ĕ6Ĕ",
    "7Ĕ8Ĕ9ē5Ĕ0Ĕ1Ĕ2Ĕ3Ĕ4Ĕ5Ĕ6Ĕ7Ĕ8Ĕ9ē6Ĕ0Ĕ1Ĕ2Ĕ3Ĕ4Ĕ5Ĕ6Ĕ7Ĕ8Ĕ9ē7Ĕ0Ĕ1Ĕ2Ĕ3Ĕ4Ĕ5Ĕ6Ĕ7Ĕ8Ĕ9ē8Ĕ0Ĕ1Ĕ2Ĕ3Ĕ4Ĕ5Ĕ6Ĕ7Ĕ8Ĕ9ē9Ĕ",
    "0Ĕ1Ĕ2Ĕ3Ĕ4Ĕ5Ĕ6Ĕ7Ĕ8Ĕ9āECTOR OR CROSS PRODUCTĂDIC SIGN ANUSVARA ANTARGOMUKHAĔBAHIRGOMUKHAĔUBHAYATO ",
    "MUKHAĔVAMAGOMUKHAğ WITH TAILČRDHAVISARGAČTIKRAMAċDOUBLE ANUSVARA ANTARGOMUKHAċHEXIFORM LONG ANUS",
    "VARAċJIHVAMULIYAċLONG ANUSVARAċNIHSHVASAċREVERSED VISARGA ANUDATTAĜUDATTAČOTATED ARDHAVISARGAČTH",
    "ANG LONG ANUSVARAċTIRYAKċUPADHMANIYAċVISARGA ANUDATTAě WITH TAILēSVARITAēUDATTAę WITH TAILċYAJUR",
    "VEDIC MIDLINE SVARITAĆTONE ATHARVAVEDIC INDEPENDENT SVARITAċCANDRA ABOVEĒBELOWċDOT BELOWčUBLE RI",
    "NG ABOVEĒSVARITAċKARSHANAčTHAKA ANUDATTAċPRENKHAċRIGVEDIC KASHMIRI INDEPENDENT SVARITAčNG ABOVEċ",
    "SHARAċTHREE DOTS BELOWČRIPLE SVARITAČWO DOTS BELOWċYAJURVEDIC AGGRAVATED INDEPENDENT SVARITAĖIND",
    "EPENDENT SVARITAĖKATHAKA INDEPENDENT SVARITAı SCHROEDERĂRSICLEăTICAL BAR BESIDE RIGHT TRIANGLEčD",
    "OUBLE LEFT TURNSTILEčTRIPLE RIGHT TURNSTILEčWITH HORIZONTAL STROKEĉELLIPSISĉFOUR DOTSĉIDEOGRAPHI",
    "C ITERATION MARKĉKANA REPEAT MARKę LOWER HALFĚUPPER HALFĕWITH VOICED SOUND MARKī UPPER HALFĉLINE",
    "č EXTENSIONĎWITH CIRCLE ABOVEĚBELOWēMIDDLE DOTĉMALE WITH STROKE SIGNĉONE EIGHTH BLOCK-2Ě3Ě4Ě5Ě6Ě",
    "7ĉSIX DOTSĉTAB KEYČULATIONē SETĊILDEĊRAFFIC LIGHTĉZIGZAG LINEăY BOLD GREEK CROSSąHEAVY EIGHT POI",
    "NTED BLACK STARđSPOKED ASTERISKċFIVE SPOKED ASTERISKċGREEK CROSSċREVERSE SOLIDUSċSALTIREČIX SPOK",
    "ED ASTERISKČOLIDUSċWHITE CIRCLEđSQUAREąMUCH GREATER-THANĊLESS-THANĂSTAāIBRATION MODEĂCTORY HANDĂ",
    "DEO CAMERAĆGAMEąCASSETTEĂETNAMESE ALTERNATE READING MARK CAĢNHAYăWDATA SQUAREĂOLINĂRGOĂTHKUQI CA",
    "PITAL LETTER AĘBBEęEĘCEęHEĘDEęHEĘEęIĘFEĘGAĘHAęHAĘIęJEĘJEĘKAĘLAęLAĘMEĘNEęJEĘOĘPEĘQAĘREĘSEęHEĘTEęH",
    "EĘUĘVEĘXEĘYĘZEĉSMALL LETTER AĖBBEėEĖCEėHEĖDEėHEĖEėIĖFEĖGAĖHAėHAĖIėJEĖJEĖKAĖLAėLAĖMEĖNEėJEĖOĖPEĖQ",
    "AĖREĖSEėHEĖTEėHEĖUĖVEĖXEĖYĖZEāOIDED GREEK CROSSĂLCANOăLEYBALLăUME INTEGRALāS1ă0Ą0Ą1Ą2Ą3Ą4Ą5Ą6Ą7Ą",
    "8Ą9ă1Ą0Ą1Ą2Ą3Ą4Ą5Ą6Ą7Ą8Ą9ă2Ą0Ą1Ą2Ą3Ą4Ą5Ą6Ą7Ą8Ą9ă3Ą0Ą1Ą2Ą3Ą4Ą5Ą6Ą7Ą8Ą9ă4Ą0Ą1Ą2Ą3Ą4Ą5Ą6Ą7Ą8Ą9ă5Ą0Ą",
    "1Ą2Ą3Ą4Ą5Ą6Ą7Ą8Ą9ă6Ą0Ą1Ą2Ą3Ą4Ą5Ą6Ą7Ą8Ą9ă7Ą0Ą1Ą2Ą3Ą4Ą5Ą6Ą7Ą8Ą9ă8Ą0Ą1Ą2Ą3Ą4Ą5Ą6Ą7Ą8Ą9ă9Ą0Ą1Ą2Ą3Ą4Ą",
    "5Ą6Ą7Ą8Ą9Ă2ă0Ą0Ą1Ą2Ą3Ą4Ą5Ą6Ą7Ą8Ą9ă1Ą0Ą1Ą2Ą3Ą4Ą5Ą6Ą7Ą8Ą9ă2Ą0Ą1Ą2Ą3Ą4Ą5Ą6Ą7Ą8Ą9ă3Ą0Ą1Ą2Ą3Ą4Ą5Ą6Ą7Ą",
    "8Ą9ă4Ą0Ą1Ą2Ą3Ą4Ą5Ą6Ą7Ą8Ą9ă5Ą0Ą1Ą2Ą3Ą4Ą5Ą6ă6ă7ă8ă9Ă3ă0ă1ă2ă3ă4ă5ă6ă7ă8ă9Ă4ă0ă1ă2ă3ă4ă5ă6ă7ă8ă9Ă5ă",
    "0ă1ă2ă3ă4ă5ă6ă7ă8ă9Ă6ă0ă1ă2ă3ă4ă5ă6ă7ă8ă9Ă7ă0ă1ă2ă3ă4ă5ă6ă7ă8ă9Ă8ă0ă1ă2ă3ă4ă5ă6ă7ă8ă9Ă9ă0ă1ă2ă3ă",
    "4ă5ă6ă7ă8ă9āTĂSāULCANUSăGAR FRACTION FIVE EIGHTHSĕSIXTHSđOUR FIFTHSĐONE EIGHTHĔFIFTHĔHALFĔNINTHĔ",
    "QUARTERĔSEVENTHĕIXTHĔTENTHĕHIRDĐSEVEN EIGHTHSĐTHREE EIGHTHSĖFIFTHSĖQUARTERSđWO FIFTHSĔTHIRDSĐZER",
    "O THIRDSĀWAFFLEĂNCHO DIGIT EIGHTčFIVEĎOURčNINEčONEčSEVENĎIXčTHREEĎWOčZEROćLETTER AďAĐNđGďNGďUĎBA",
    "ĎCAĎDAĎEďNĎFAĎGAĎHAĎIďNGĎJAĎKAďHAĎLAďLHAĎMAĎNAďGAďYAĎOďNĐGĎPAďHAĎRAĎSAďHAĎTAďHAďRAďSAĎUďENĎVAĎWA",
    "ĎYAďIHĎZAćNGUN SIGNćTONE KOIďNIČTUPďNIăING CRESCENT MOON SYMBOLćGIBBOUS MOON SYMBOLĂRANG CITI CA",
    "PITAL LETTER AĜMĜNGĜTěBUěDAěEĜNNĝYěGAěHARĜIYOĜOLOĝRRěIIěKOěNGAAĜUNGěOĜDDěPUěSIIĜSUUěTTEěUCĜUěVIY",
    "OěWIěYAĜOĜUĝJČDIGIT EIGHTĒFIVEēOURĒNINEĒONEĒSEVENēIXĒTHREEēWOĒZEROČNUMBER EIGHTYēFIFTYĔORTYēNINE",
    "TYēSEVENTYĔIXTYēTENĔHIRTYĔWENTYČOMČSMALL LETTER AĚMĚNGĚTęBUęDAęEĚNNěYęGAęHARĚIYOĚOLOěRRęIIęKOęNG",
    "AAĚUNGęOĚDDęPUęSIIĚSUUęTTEęUCĚUęVIYOęWIęYAĚOĚUěJăNING SIGNĂSTEBASKETĂTCHăER BUFFALOĆCLOSETĆPOLOĆ",
    "WAVEąMELONĂVE ARROW POINTING DIRECTLY LEFTĝRIGHTąDASHăING BLACK FLAGćHAND SIGNćWHITE FLAGăY DASH",
    "ąLINEĆOW LINEąOVERLINEĂXING CRESCENT MOON SYMBOLćGIBBOUS MOON SYMBOLāEARY CAT FACEĆFACEĂDDINGăGE",
    "-TAILED RIGHTWARDS ARROWĂIERSTRASS ELLIPTIC FUNCTIONăGHT LIFTERĂST SYRIAC CROSSāHALEĂEELą OF DHA",
    "RMAąCHAIR SYMBOLĂITE ARROW SHAFT WIDTH ONEĘTWO THIRDSĆBULLETĆCHESS BISHOPĒ ROTATED NINETY DEGREE",
    "SěTWO HUNDRED SEVENTY DEGREESČEQUIHOPPERĖ ROTATED NINETY DEGREESČKINGĐ ROTATED NINETY DEGREESęTW",
    "O HUNDRED SEVENTY DEGREESčNIGHTĒ ROTATED FORTY-FIVE DEGREESěNINETY DEGREESěONE HUNDRED THIRTY-FI",
    "VE DEGREESěTHREE HUNDRED FIFTEEN DEGREESĜWO HUNDRED SEVENTY DEGREESħTWENTY-FIVE DEGREESĒ-BISHOPē",
    "QUEENēROOKČPAWNĐ ROTATED NINETY DEGREESęTWO HUNDRED SEVENTY DEGREESČQUEENđ ROTATED NINETY DEGREE",
    "SĚTWO HUNDRED SEVENTY DEGREESČROOKĐ ROTATED NINETY DEGREESęTWO HUNDRED SEVENTY DEGREESČTURNED BI",
    "SHOPēKINGĔNIGHTēPAWNēQUEENēROOKćIRCLEČ CONTAINING BLACK SMALL CIRCLEčWITH DOT RIGHTĔWN ARROWĒLOW",
    "ER LEFT QUADRANTĘRIGHT QUADRANTĒTWO DOTSĒUPPER LEFT QUADRANTĘRIGHT QUADRANTćLUB SUITćONCAVE-SIDE",
    "D DIAMONDě WITH LEFTWARDS TICKġRIGHTWARDS TICKĆDIAMONDč CONTAINING BLACK MEDIUM DIAMONDğSMALL DI",
    "AMONDğVERY SMALL DIAMONDĎIN SQUAREĎSUITĎWITH CENTRED DOTćOWN POINTING BACKHAND INDEXĔINDEXĔLEFT ",
    "HAND INDEXĊ-POINTING SMALL TRIANGLEĔTRIANGLEćRAUGHTS KINGďMANĆEXCLAMATION MARK ORNAMENTĆFLAGĊ WI",
    "TH HORIZONTAL MIDDLE BLACK STRIPEĈORETTEĉWERćOUR POINTED CUSPēSTARćROWNING FACEĆHARD SHELL FLOPP",
    "Y DISKćEARTċ SUITĉVY CHECK MARKČSALTIRE WITH ROUNDED CORNERSĈXAGONćORIZONTAL ELLIPSEĈURGLASSĆLAR",
    "GE SQUAREĈTIN CROSSćEFT LANE MERGEċPOINTING BACKHAND INDEXĔINDEXĊ-POINTING POINTERĔSMALL TRIANGL",
    "EĔTRIANGLEćOZENGE CONTAINING BLACK SMALL LOZENGEĆMEDIUM DIAMONDčLOZENGEčSMALL SQUAREĎQUAREĎTARćO",
    "ON SELENAĆNIBĆPARALLELOGRAMćENNANTĉTAGONĆQUESTION MARK ORNAMENTĆRECTANGLEćIGHT POINTING BACKHAND",
    " INDEXĕINDEXċ-POINTING PENTAGONĖOINTERĕSMALL TRIANGLEĕTRIANGLEĆSCISSORSćESAME DOTćHOGI PIECEćMAL",
    "L LOZENGEČSQUAREčTARĈILING FACEćPADE SUITćQUAREČ BUTTONčCONTAINING BLACK MEDIUM SQUAREĞSMALL SQU",
    "AREĞVERY SMALL SQUAREčWITH CENTRE VERTICAL LINEĒLEFTWARDS TICKēOWER LEFT QUADRANTĘRIGHT QUADRANT",
    "ĒRIGHTWARDS TICKēOUNDED CORNERSĒUPPER LEFT QUADRANTĘRIGHT QUADRANTĒVERTICAL BISECTING LINEćTARćU",
    "Nĉ BEHIND CLOUDĖ WITH RAINĊWITH RAYSďSMALL CLOUDĆTELEPHONEćOUCHTONE TELEPHONEćRAPEZIUMĈIANGLE CO",
    "NTAINING SMALL WHITE TRIANGLEćWO-WAY LEFT WAY TRAFFICĆUP POINTING BACKHAND INDEXĒINDEXĈ-POINTING",
    " CHEVRONĒSMALL TRIANGLEĒTRIANGLEĚ WITH DOTĆVERTICAL BARďELLIPSEďRECTANGLEĉY SMALL SQUAREą-FEATHE",
    "RED RIGHTWARDS ARROWāIDE-HEADED DOWNWARDS BARB ARROWĖHEAVY BARB ARROWĖLIGHT BARB ARROWĖMEDIUM BA",
    "RB ARROWĖVERY HEAVY BARB ARROWČLEFTWARDS BARB ARROWĖHEAVY BARB ARROWĖLIGHT BARB ARROWĖMEDIUM BAR",
    "B ARROWĖVERY HEAVY BARB ARROWČNORTH EAST BARB ARROWėHEAVY BARB ARROWėLIGHT BARB ARROWėMEDIUM BAR",
    "B ARROWėVERY HEAVY BARB ARROWĒWEST BARB ARROWėHEAVY BARB ARROWėLIGHT BARB ARROWėMEDIUM BARB ARRO",
    "WėVERY HEAVY BARB ARROWČRIGHTWARDS BARB ARROWėHEAVY BARB ARROWėLIGHT BARB ARROWėMEDIUM BARB ARRO",
    "WėVERY HEAVY BARB ARROWČSOUTH EAST BARB ARROWėHEAVY BARB ARROWėLIGHT BARB ARROWėMEDIUM BARB ARRO",
    "WėVERY HEAVY BARB ARROWĒWEST BARB ARROWėHEAVY BARB ARROWėLIGHT BARB ARROWėMEDIUM BARB ARROWėVERY",
    " HEAVY BARB ARROWČUPWARDS BARB ARROWĔHEAVY BARB ARROWĔLIGHT BARB ARROWĔMEDIUM BARB ARROWĔVERY HE",
    "AVY BARB ARROWĂGGLY VERTICAL LINEĂLTED FLOWERĂND BLOWING FACEąCHIMEĄOWăE GLASSăKING FACEĂRED KEY",
    "BOARDāJāOLF FACEĂMANą WITH BUNNY EARSąS BOOTSćCLOTHESćHATćSANDALăENS SYMBOLĂN SIGNĂODĂRD JOINERą",
    "SEPARATOR MIDDLE DOTăLD MAPăMăRIED FACEāRAPPED PRESENTĂEATH PRODUCTăNCHăSTLERSĂITING HANDĀX IN A",
    " RECTANGLE BOXā-RAYāIANGQI BLACK CANNONďHARIOTĎELEPHANTĎGENERALĎHORSEĎMANDARINĎSOLDIERĈRED CANNO",
    "NčHARIOTČELEPHANTČGENERALČHORSEČMANDARINČSOLDIERāORĀYAWNING FACEāELLOW HEARTĂN SIGNĂZIDI COMBINI",
    "NG HAMZA MARKđMADDA MARKćHYPHENATION MARKćLETTER BEĎCHHIMĐIMďIMĎDADĐLĎELIFďTďWďYNĎFAĎGAFĎHAYďHAĎ",
    "JAĎKAFďHAFĎLAMđ WITH DOT ABOVEĎMIMĎNUNĎOWĎPEďHEĎQAFĎRAďHAĎSADďEďHINďINĎTAďHEĎUMĎVAĐ ALTERNATE FO",
    "RMĎWAWĎXAďHEYNĎYOTđ WITH CIRCUMFLEX ABOVEĎZAĐLďEāI RADICAL BBUTČURċCHEČIPČUOPČYčPčTċDDURČUċGAČEP",
    "ČGOPčUOČOTċHMOČXITčOPčUOċJJIEčUTčYČOċKEČITċLIčEČYRċMIČOPċNBIEČYIPčOPČZUPċOPċPUTČYTċQOTċSHATčOPčU",
    "RčYČSIċTATČUċVEPČURċWOċYITČOċZAČOTČUPčRČZIETăSYLLABLE AčPčTčXČBAĎPĎTĎXčBAďPďTďXĎEďPďXĎIďEĐPĐTĐXď",
    "PďTďXĎOďPďTďXĎUďOĐPĐXďPďRĐXďTďXĎYďPďTďXčEĎPĎXčIĎEďPďTďXĎPĎTĎXčOĎPĎTĎXčUĎOďPďXĎPĎRďXĎTĎXčYĎPĎRďXĎ",
    "TĎXČCAĎPĎTĎXčEĎPĎXčHAďPďTďXĎEďPďTďXĎOďPďTďXĎUďOĐPĐTĐXďPďRĐXďXĎYďPďRĐXďTďXčIĎEďPďTďXĎPĎTĎXčOĎPĎTĎ",
    "XčUĎOďPďXĎPĎRďXĎTĎXčYĎPĎRďXĎTĎXČDAĎPĎTĎXčDAďPďTďXĎEďPďXĎIďEĐPĐXďPďTďXĎOďPďTďXĎUďOĐPĐXďPďRĐXďTďXč",
    "EĎPĎXčIĎEďPďXĎPĎTĎXčOĎPĎTĎXčUĎOďXĎPĎRďXĎTĎXČEčXČFAĎPĎTĎXčIĎPĎTĎXčOĎPĎXčUĎPĎRďXĎTĎXčYĎPĎTĎXČGAĎPĎ",
    "TĎXčEĎPĎTĎXčGAďPďTďXĎEďPďTďXĎIďEĐPĐXďTďXĎOďPďTďXĎUďOĐPĐTĐXďPďRĐXďTďXčIĎEďPďTďXĎPĎTĎXčOĎPĎTĎXčUĎO",
    "ďPďTďXĎPĎRďXĎTĎXČHAĎPĎTĎXčEĎPĎXčIEďXĎTčLAďPďTďXĎEďPďXĎIďEĐPĐXďPďTďXĎOďPďXĎUďOĐPĐXďPďRĐXďTďXĎYďPď",
    "RĐXďTďXčMAďPďTďXĎIďEĐPĐXďPďTďXĎOďPďTďXĎUďOĐPĐXďPďRĐXďTďXĎYďPďRĐXďXčNAďPďTďXĎEďPďXĎIďEĐPĐTĐXďPďTď",
    "XĎOPďTďXĎUOĐXďTčOĎPĎTĎXčUOďPďTďXčXAďPďTďXĎEďPďXĎIďEĐPĐTĐXďPďTďXĎOďPďTďXĎUOĐPĐTĐXČIčEĎPĎTĎXčPčTĎE",
    "RATION MARKčXČJIĎEďPďTďXĎPĎTĎXčJIďEĐPĐTĐXďPďTďXĎOďPďTďXĎUďOĐPĐXďPďRĐXďTďXĎYďPďTďXčOĎPĎTĎXčUĎOďPď",
    "TďXĎPĎRďXĎTĎXčYĎPĎRďXĎTĎXČKAĎPĎTĎXčEĎPĎTĎXčIĎEďPďXĎPĎTĎXčOĎPĎTĎXčUĎOďPďXĎPĎRďXĎTĎXČLAĎPĎTĎXčEĎPĎ",
    "XčIĎEďPďTďXĎPĎTĎXčOĎPĎTĎXčUĎOďPďTďXĎPĎRďXĎTĎXčYĎPĎRďXĎTĎXČMAĎPĎTĎXčEĎXčGAďPďTďXĎEďPďXĎIEĐXĎOďPďT",
    "ďXĎUďOĐPĐXďPďRĐXďTďXčIĎEďPďXĎPĎTĎXčOĎPĎTĎXčUĎOďPďTďXĎPĎRďXĎTĎXčYĎPĎTĎXČNAĎPĎXčBAďPďTďXĎIďEĐPĐXďP",
    "ďTďXĎOďPďTďXĎUďPďRĐXďTďXĎYďPďRĐXďTďXčDAďPďTďXĎEďPďXĎIďEĐXďPďTďXĎOďPďTďXĎUďPďRĐXďTďXčEĎPĎXčGAďPďT",
    "ďXĎEďPďXĎIEĐPĐXĎOďPďTďXĎUOĐTĐXčIĎEďPďXĎPĎTĎXčJIďEĐPĐTĐXďPďTďXĎOďPďTďXĎUďOĐXďPďRĐXďXĎYďPďRĐXďTďXč",
    "OĎPĎTĎXčRAďPďTďXĎEďPďTďXĎOďPďXĎUďPďRĐXďTďXĎYďPďRĐXďTďXčUĎOďPďXĎPĎRďXĎTĎXčYIďEĐPĐTĐXďPďTďXĎOďPďTď",
    "XĎUďOĐPĐXďPďTďXčZAďPďTďXĎEďXĎIďEĐPĐXďPďTďXĎOPďXĎUďOĐXďPďRĐXďXĎYďPďRĐXďTďXČOčPčTčXČPAĎPĎTĎXčIĎEďP",
    "ďXĎPĎTĎXčOĎPĎTĎXčUĎOďPďXĎPĎRďXĎTĎXčYĎPĎRďXĎTĎXČQIĎEďPďTďXĎPĎTĎXčOĎPĎTĎXčUĎOďPďTďXĎPĎRďXĎTĎXčYĎPĎ",
    "RďXĎTĎXČRAĎPĎTĎXčEĎPĎXčOĎPĎTĎXčRAďXĎEďPďTďXĎOďPďTďXĎUďOĐXďPďRĐXďTďXĎYďPďRĐXďTďXčUĎOďPďXĎPĎRďXĎTĎ",
    "XčYĎPĎRďXĎTĎXČSAĎPĎTĎXčEĎPĎXčHAďPďTďXĎEďPďTďXĎOďPďTďXĎUďOĐPĐXďPďRĐXďTďXĎYďPďRĐXďTďXčIĎEďPďXĎPĎTĎ",
    "XčOĎPĎTĎXčSAďPďTďXĎEďPďXĎIďEĐPĐXďPďTďXĎOďPďTďXĎUďPďTďXĎYďPďRĐXďTďXčUĎOďPďXĎPĎRďXĎTĎXčYĎPĎRďXĎTĎX",
    "ČTAĎPĎTĎXčEĎPĎXčIĎEďPďXĎPĎTĎXčOĎPĎTĎXčUĎOďPďTďXĎPĎRďXĎTĎXČUOĎPĎXČVAĎPĎTĎXčEPĎXčIĎEďPďTďXĎPĎTĎXčO",
    "ĎPĎTĎXčUĎPĎRďXĎTĎXčYĎPĎRďXĎTĎXČWAĎPĎTĎXčEĎPĎXčOĎPĎXčUĎOďPďXČXIĎEďPďTďXĎPĎTĎXčOĎPĎTĎXčUOďXčYĎPĎRď",
    "XĎTĎXČYIĎEďPďTďXĎPĎTĎXčOĎPĎTĎXčUĎOďPďTďXĎPĎRďXĎTĎXčYĎPĎRďXĎTĎXČZAĎPĎTĎXčEĎPĎXčHAďPďTďXĎEďPďTďXĎO",
    "ďPďTďXĎUďOĐPĐXďPďRĐXďTďXĎYďPďRĐXďTďXčIĎEďPďXĎPĎTĎXčOĎPĎTĎXčUĎOďPďXĎPĎRďXĎTĎXčYĎPĎRďXĎTĎXčZAďPďTď",
    "XĎEďPďXĎIďEĐPĐTĐXďPďTďXĎOďPďXĎUďPďRĐXďXĎYďPďRĐXďTďXĂN YANGāO-YOĀZ NOTATION BAG MEMBERSHIPċDOMAIN",
    " ANTIRESTRICTIONċLEFT BINDING BRACKETĐIMAGE BRACKETċRANGE ANTIRESTRICTIONČELATIONAL COMPOSITIONČ",
    "IGHT BINDING BRACKETđIMAGE BRACKETċSCHEMA COMPOSITIONĒPIPINGēROJECTIONČPOTċTYPE COLONāANABAZAR S",
    "QUARE CLOSING DOUBLE-LINED HEAD MARKęHEAD MARKēUSTER-FINAL LETTER LAĦRAĦVAĦYAęINITIAL LETTER RAđ",
    "FINAL CONSONANT MARKđINITIAL DOUBLE-LINED HEAD MARKęHEAD MARKđLETTER -AĘAĘBAęHAĘCAęHAĘDAęDAĚHAęH",
    "AęZAĚHAĘGAęHAĘHAĘJAĘKAęHAęSSAĘLAĘMAĘNAęGAęNAęYAĘPAęHAĘRAĘSAęHAęSAĘTAęHAęSAĚHAęTAĚHAĘVAĘYAĘZAęHAđ",
    "MARK DOUBLE SHADĖLONG TSHEGĖSHADĖTSHEGđSIGN ANUSVARAĖCANDRA WITH ORNAMENTĜBINDUġ WITH ORNAMENTĖV",
    "IRAMAĘSARGAĒUBJOINERđVOWEL LENGTH MARKėSIGN AIĝUĜEĜIĜOĝEĜREVERSED IĜUĝEāEBRA FACEĂRO WIDTH JOINE",
    "RċNO-BREAK SPACEčN-JOINERċSPACEĂUSāIPPER-MOUTH FACEāNAMENNY COMBINING ATTACHING VERTICAL OMETēLO",
    "WER TONAL RANGE INDICATORēMARK BORZAYAĘCHASHKAğ POLNAYAęURVED OMETĘDEMESTVENNY ZADERZHKAęVOETOCH",
    "IEĘGORAZDO NIZKO ON LEFTĩRIGHTĦS KRYZHEM ON LEFTĳRIGHTĠVYSOKOĘKACHKAęRYZHĝ ON LEFTęUPNAYAĘLOMKAĘ",
    "MALO POVYSHE ON LEFTĨRIGHTĥS KHOKHLOM ON LEFTĳRIGHTĨRYZHEMĦTRANNOĘNIZKO ON LEFTġRIGHTĞS KRYZHEM ",
    "ON LEFTīRIGHTĘOBLACHKOęNęTSECHKAĘPODCHASHIEĢ WITH VERTICAL STROKEěVERTKAĚVYSHE ON LEFTģRIGHTĠS K",
    "HOKHLOM ON LEFTĮRIGHTģRYZHEMġTRANNOĘRAVNOĚZSEKAĘSKOBAęOROCHYA NOZHKAęREDNE ON LEFTĢRIGHTęTRANNO ",
    "MALO POVYSHEĘTIKHAYAęOCHKAęSATA ON LEFTġRIGHTĞS KRYZHEMĘUDARKAĘVYSOKO ON LEFTĢRIGHTğS KHOKHLOM O",
    "N LEFTĭRIGHTĢRYZHEMĘZADERZHKAęELOĚVOKēTONAL RANGE MARK MRACHNOĤSVETLOĤTRESVETLOĉNEUME CHASHKAđEL",
    "YUSTKAďDEMESTVENNY KLYUCHđRBITSAĐOUBLE ZAPYATAYAĐUDAĐVA V CHELNUďFITAďGOLUBCHIK BORZYęMRACHNYęSV",
    "ETLYęTIKHYĚRESVETLYďKHAMILOĐLYUCHĐOBYLAĐRYUKĔ TIKHYĒZHĐUFISMAďMECHIKĕ KLYUCHENEPOSTOYANNYĝPOVODN",
    "YĝVOYĖPOVODNYďNEMKAďOBLAKOĐSOKAĔ KLYUCHEVAYA NEPOSTOYANNAYAġSVETLAYAĖRYUKOVAYA SVETLAYAĕSVETLAYA",
    "ĕTRESVETLAYAďPALKAđRAKLITđUKĐEREVODKAĘ NEPOSTOYANNAYAĐODCHASHIEđLKULIZMYďREVERSED CHELYUSTKAĐOGď",
    "SKAMEYTSA DVOECHELNAYA KLYUCHEVAYAĦNEPOSTOYANNAYAĦPROSTAYAĦSVETLAYAęKLYUCHENEPOSTOYANNAYAĠVAYA S",
    "VETLAYAĥTIKHAYAęMRACHNAYAęSVETLAYAęTIKHAYAĚRESVETLAYAĐLOZHITIEĘ S KRYZHEMěZAPYATOYęZAKRYTOEĐTATY",
    "Aĕ NEPOSTOYANNAYAĖS DVUMYA ZAPYATYMIĘKRYZHEMğ I ZAPYATOYĘROGOMĘZAPYATOYĠ I KRYZHEMģPODCHASHIEMĖZ",
    "AKRYTAYAğ S ZAPYATOYđOPITSAė S OCHKOMĘWITH SOROCHYA NOZHKAđRELA DVOECHELNAYAĢ KLYUCHEVAYAğOKRYZH",
    "EVAYAĠPOVODNAYAĩ KLYUCHEVAYAĖGROMNAYAĞ WITH SINGLE ZAPYATAYAĚOKRYZHEVAYAĥ POVODNAYAěPOVODNAYAĤ W",
    "ITH DOUBLE ZAPYATAYAĪSINGLE ZAPYATAYAĖKLYUCHENEPOSTOYANNAYAĝPOVODNAYAėRYUKOVAYAĠ GROMNAYAĩ WITH ",
    "SINGLE ZAPYATAYAĥOKRYZHEVAYAİ POVODNAYAĦPOVODNAYAį WITH DOUBLE ZAPYATAYAĵSINGLE ZAPYATAYAġPOVODN",
    "AYAġTRYASKAęZHEVAYAĖMRACHNOTIKHAYAĖNEPOSTOYANNAYAĖPOLUPOVODNAYAĘVODNAYAėROSTAYAĖTIKHAYA PUTNAYAė",
    "RYASOGLASNAYAĜPOVODNAYAĜSTRELNAYAďVRAKHIYA KLYUCHEVAYA MRACHNAYAĤPROSTAYAĤSVETLAYAĤTRESVETLAYAĘM",
    "RACHNAYAĘPROSTAYAĘSVETLAYAĘTRESVETLAYAďZANOZHEKđPYATAYAĐMEYTSAĉPRIZNAK MODIFIER DIRECTION FLIPĚK",
    "RYZHĚLEVEL-2Ġ3ĚROGāOMBIEāWJĂNBSPăJĂSP"]

/-- The names of characters and their aliases, front-coded: each starts with the
character `U+0100 + k` for the `k` leading characters it shares with the name before. -/
def namesText : String :=
  String.join [namesPart1, namesPart2, namesPart3, namesPart4, namesPart5, namesPart6]

/-- The names written front-coded in a text, as a set. -/
def decodeNames (text : String) : Std.HashSet String :=
  let (names, last) := text.foldl (fun (acc : Std.HashSet String × String) c =>
    let (names, cur) := acc
    if c.toNat ≥ 0x100 then
      let names := if cur.isEmpty then names else names.insert cur
      (names, String.ofList (cur.toList.take (c.toNat - 0x100)))
    else (names, cur.push c)) ((∅ : Std.HashSet String), "")
  if last.isEmpty then names else names.insert last

/-- The names of characters and their aliases. -/
def storedNames : Std.HashSet String := decodeNames namesText

/-- The names of the leading consonants of Hangul syllables. -/
def hangulLeads : List String :=
  ["G", "GG", "N", "D", "DD", "R", "M", "B", "BB", "S", "SS", "", "J", "JJ", "C", "K", "T", "P", "H"]

/-- The names of the vowels of Hangul syllables. -/
def hangulVowels : List String :=
  ["A", "AE", "YA", "YAE", "EO", "E", "YEO", "YE", "O", "WA", "WAE", "OE", "YO", "U", "WEO", "WE",
    "WI", "YU", "EU", "YI", "I"]

/-- The names of the trailing consonants of Hangul syllables. -/
def hangulTails : List String :=
  ["", "G", "GG", "GS", "N", "NJ", "NH", "D", "L", "LG", "LM", "LB", "LS", "LT", "LP", "LH", "M",
    "B", "BS", "S", "SS", "NG", "J", "C", "K", "T", "P", "H"]

/-- The longest of some names that a text starts with, and the rest of the text. -/
def longestPrefix (names : List String) (cs : List Char) : Option (List Char) :=
  let fits := names.filter fun n => n.toList.isPrefixOf cs
  match fits.foldl (fun best n => if n.length > best.length then n else best) "" with
  | best => if fits.isEmpty then none else some (cs.drop best.length)

/-- Whether a text names a Hangul syllable after its prefix: a leading consonant, a vowel
and a trailing consonant, each the longest that fits, and nothing else. -/
def hangulSyllable? (cs : List Char) : Bool :=
  match longestPrefix hangulLeads cs with
  | none => false
  | some r1 => match longestPrefix hangulVowels r1 with
    | none => false
    | some r2 => match longestPrefix hangulTails r2 with
      | some [] => true
      | _ => false

/-- Whether a code point is a unified ideograph. -/
def isUnifiedIdeograph (n : Nat) : Bool :=
  (0x3400 ≤ n && n ≤ 0x4DBF) || (0x4E00 ≤ n && n ≤ 0x9FFF) || (0x20000 ≤ n && n ≤ 0x2A6DF) ||
    (0x2A700 ≤ n && n ≤ 0x2B738) || (0x2B740 ≤ n && n ≤ 0x2B81D) || (0x2B820 ≤ n && n ≤ 0x2CEA1) ||
    (0x2CEB0 ≤ n && n ≤ 0x2EBE0) || (0x30000 ≤ n && n ≤ 0x3134A)

/-- The value of an upper-case hex digit. -/
def upperHexValue? (c : Char) : Option Nat :=
  if '0' ≤ c && c ≤ '9' then some (c.toNat - 48)
  else if 'A' ≤ c && c ≤ 'F' then some (c.toNat - 55)
  else none

/-- Whether a text names a unified ideograph after its prefix: four or five upper-case
hex digits of one. -/
def ideographName? (cs : List Char) : Bool :=
  (cs.length == 4 || cs.length == 5) &&
    match cs.mapM upperHexValue? with
    | some ds => isUnifiedIdeograph (ds.foldl (fun acc d => 16 * acc + d) 0)
    | none => false

/-- Whether a text names a character. -/
def isCharacterName (name : String) : Bool :=
  let cs := name.toList
  if "HANGUL SYLLABLE ".toList.isPrefixOf cs then hangulSyllable? (cs.drop 16)
  else if "CJK UNIFIED IDEOGRAPH-".toList.isPrefixOf cs then ideographName? (cs.drop 22)
  else storedNames.contains (upperAscii name)

end AddonCatalog.Text
