/-!
# History of the zones

The offsets that the zones had before their present rules, in the order of time. Each is given in
seconds, with the instant at which it ended in seconds since the start of the year 1. The first one
is local mean time.
-/

namespace FieldQuery.Zone.History

def berlin : List (Int × Nat) :=
  [(3208, 59713542392), (3600, 60441890400), (7200, 60455113200), (3600, 60472141200),
   (7200, 60485446800), (3600, 60503590800), (7200, 60516896400), (3600, 61196691600),
   (7200, 61278339600), (3600, 61291040400), (7200, 61307370000), (3600, 61323094800),
   (7200, 61338819600), (3600, 61354544400), (7200, 61359033600), (10800, 61369660800),
   (7200, 61374416400), (3600, 61387117200), (7200, 61402323600), (3600, 61417965600),
   (7200, 61420986000), (10800, 61425216000), (7200, 61433686800), (3600, 61450621200),
   (7200, 61465136400), (3600, 61481466000), (7200, 61496586000), (3600, 62459427600),
   (7200, 62474547600), (3600, 62490272400), (7200, 62505997200), (3600, 62521722000),
   (7200, 62537446800), (3600, 62553171600), (7200, 62568896400), (3600, 62584621200),
   (7200, 62600950800), (3600, 62616675600), (7200, 62632400400), (3600, 62648125200),
   (7200, 62663850000), (3600, 62679574800), (7200, 62695299600), (3600, 62711024400),
   (7200, 62726749200), (3600, 62742474000), (7200, 62758198800), (3600, 62773923600),
   (7200, 62790253200), (3600, 62805978000), (7200, 62821702800), (3600, 62837427600),
   (7200, 62853152400), (3600, 62868877200), (7200, 62884602000), (3600, 62900326800),
   (7200, 62916051600), (3600, 62931776400), (7200, 62947501200), (3600, 62963830800)]

def london : List (Int × Nat) :=
  [(-75, 58282934475), (0, 60443632800), (3600, 60455124000), (0, 60471453600),
   (3600, 60485450400), (0, 60501693600), (3600, 60518109600), (0, 60533748000),
   (3600, 60549559200), (0, 60565197600), (3600, 60583428000), (0, 60597252000),
   (3600, 60613063200), (0, 60628096800), (3600, 60645031200), (0, 60661965600),
   (3600, 60674666400), (0, 60692810400), (3600, 60706720800), (0, 60724864800),
   (3600, 60739380000), (0, 60756314400), (3600, 60770829600), (0, 60787159200),
   (3600, 60802279200), (0, 60819818400), (3600, 60834333600), (0, 60851268000),
   (3600, 60865783200), (0, 60882112800), (3600, 60897232800), (0, 60914167200),
   (3600, 60928682400), (0, 60945616800), (3600, 60960132000), (0, 60976461600),
   (3600, 60992186400), (0, 61009120800), (3600, 61023636000), (0, 61039965600),
   (3600, 61055085600), (0, 61072020000), (3600, 61086535200), (0, 61103469600),
   (3600, 61117984800), (0, 61134314400), (3600, 61149434400), (0, 61166368800),
   (3600, 61185117600), (0, 61193584800), (3600, 61231078800), (7200, 61239546000),
   (3600, 61260109200), (7200, 61270995600), (3600, 61291558800), (7200, 61303050000),
   (3600, 61323008400), (7200, 61337523600), (3600, 61354544400), (7200, 61363530000),
   (3600, 61370791200), (0, 61387120800), (3600, 61402240800), (0, 61416151200),
   (3600, 61418566800), (7200, 61428848400), (3600, 61436109600), (0, 61447600800),
   (3600, 61467559200), (0, 61480864800), (3600, 61499008800), (0, 61513524000),
   (3600, 61529853600), (0, 61544973600), (3600, 61561303200), (0, 61577028000),
   (3600, 61593357600), (0, 61608477600), (3600, 61622992800), (0, 61639322400),
   (3600, 61654442400), (0, 61671376800), (3600, 61685892000), (0, 61703431200),
   (3600, 61717946400), (0, 61734276000), (3600, 61749396000), (0, 61766330400),
   (3600, 61780845600), (0, 61797780000), (3600, 61812295200), (0, 61828624800),
   (3600, 61843744800), (0, 61858864800), (3600, 61877613600), (0, 61890314400),
   (3600, 61909063200), (0, 61922368800), (3600, 61940512800), (0, 61953213600),
   (3600, 61971962400), (0, 61984663200), (3600, 62003412000), (0, 62016112800),
   (3600, 62034861600), (0, 62047562400), (3600, 62066916000), (0, 62076592800),
   (3600, 62193319200), (0, 62205415200), (3600, 62224768800), (0, 62236864800),
   (3600, 62256218400), (0, 62268314400), (3600, 62287668000), (0, 62299764000),
   (3600, 62319117600), (0, 62331818400), (3600, 62350567200), (0, 62363268000),
   (3600, 62382016800), (0, 62394717600), (3600, 62414071200), (0, 62426167200),
   (3600, 62445520800), (0, 62457616800), (3600, 62476970400), (0, 62490272400),
   (3600, 62508416400), (0, 62521722000), (3600, 62539866000), (0, 62553171600),
   (3600, 62571315600), (0, 62584621200), (3600, 62603370000), (0, 62616675600),
   (3600, 62634819600), (0, 62648125200), (3600, 62666269200), (0, 62679574800),
   (3600, 62697718800), (0, 62711024400), (3600, 62729168400), (0, 62742474000),
   (3600, 62761222800), (0, 62773923600), (3600, 62792672400), (0, 62805978000),
   (3600, 62824122000), (0, 62837427600), (3600, 62855571600), (0, 62868877200),
   (3600, 62887021200), (0, 62900326800), (3600, 62918470800), (0, 62931776400),
   (3600, 62949920400), (0, 62963830800)]

def newYork : List (Int × Nat) :=
  [(-17762, 59417946000), (-18000, 60502316400), (-14400, 60520456800), (-18000, 60533766000),
   (-14400, 60551906400), (-18000, 60565215600), (-14400, 60583960800), (-18000, 60599084400),
   (-14400, 60612386400), (-18000, 60631138800), (-14400, 60643836000), (-18000, 60662588400),
   (-14400, 60675890400), (-18000, 60694038000), (-14400, 60707340000), (-18000, 60725487600),
   (-14400, 60738789600), (-18000, 60756937200), (-14400, 60770239200), (-18000, 60788386800),
   (-14400, 60801688800), (-18000, 60820441200), (-14400, 60833743200), (-18000, 60851890800),
   (-14400, 60865192800), (-18000, 60883340400), (-14400, 60896642400), (-18000, 60914790000),
   (-14400, 60928092000), (-18000, 60946239600), (-14400, 60959541600), (-18000, 60978294000),
   (-14400, 60990991200), (-18000, 61009743600), (-14400, 61023045600), (-18000, 61041193200),
   (-14400, 61054495200), (-18000, 61072642800), (-14400, 61085944800), (-18000, 61104092400),
   (-14400, 61117394400), (-18000, 61135542000), (-14400, 61148844000), (-18000, 61167596400),
   (-14400, 61180293600), (-18000, 61199046000), (-14400, 61212348000), (-18000, 61230495600),
   (-14400, 61243797600), (-18000, 61255378800), (-14400, 61370200800), (-18000, 61388348400),
   (-14400, 61401650400), (-18000, 61419798000), (-14400, 61433100000), (-18000, 61451247600),
   (-14400, 61464549600), (-18000, 61482697200), (-14400, 61495999200), (-18000, 61514751600),
   (-14400, 61527448800), (-18000, 61546201200), (-14400, 61559503200), (-18000, 61577650800),
   (-14400, 61590952800), (-18000, 61609100400), (-14400, 61622402400), (-18000, 61640550000),
   (-14400, 61653852000), (-18000, 61671999600), (-14400, 61688325600), (-18000, 61704054000),
   (-14400, 61719775200), (-18000, 61735503600), (-14400, 61751224800), (-18000, 61766953200),
   (-14400, 61782674400), (-18000, 61798402800), (-14400, 61814124000), (-18000, 61829852400),
   (-14400, 61846178400), (-18000, 61861906800), (-14400, 61877628000), (-18000, 61893356400),
   (-14400, 61909077600), (-18000, 61924806000), (-14400, 61940527200), (-18000, 61956255600),
   (-14400, 61971976800), (-18000, 61987705200), (-14400, 62004031200), (-18000, 62019154800),
   (-14400, 62035480800), (-18000, 62051209200), (-14400, 62066930400), (-18000, 62082658800),
   (-14400, 62098380000), (-18000, 62114108400), (-14400, 62129829600), (-18000, 62145558000),
   (-14400, 62161279200), (-18000, 62177007600), (-14400, 62193333600), (-18000, 62209062000),
   (-14400, 62224783200), (-18000, 62240511600), (-14400, 62256232800), (-18000, 62262284400),
   (-14400, 62287682400), (-18000, 62297967600), (-14400, 62319132000), (-18000, 62334860400),
   (-14400, 62351186400), (-18000, 62366310000), (-14400, 62382636000), (-18000, 62398364400),
   (-14400, 62414085600), (-18000, 62429814000), (-14400, 62445535200), (-18000, 62461263600),
   (-14400, 62476984800), (-18000, 62492713200), (-14400, 62508434400), (-18000, 62524162800),
   (-14400, 62540488800), (-18000, 62555612400), (-14400, 62571938400), (-18000, 62587666800),
   (-14400, 62603388000), (-18000, 62619116400), (-14400, 62634837600), (-18000, 62650566000),
   (-14400, 62666287200), (-18000, 62680201200), (-14400, 62697736800), (-18000, 62711650800),
   (-14400, 62729791200), (-18000, 62743100400), (-14400, 62761240800), (-18000, 62774550000),
   (-14400, 62792690400), (-18000, 62806604400), (-14400, 62824140000), (-18000, 62838054000),
   (-14400, 62855589600), (-18000, 62869503600), (-14400, 62887644000), (-18000, 62900953200),
   (-14400, 62919093600), (-18000, 62932402800), (-14400, 62950543200), (-18000, 62964457200),
   (-14400, 62981992800), (-18000, 62995906800), (-14400, 63013442400), (-18000, 63027356400),
   (-14400, 63044892000), (-18000, 63058806000), (-14400, 63076946400), (-18000, 63090255600),
   (-14400, 63108396000), (-18000, 63121705200), (-14400, 63139845600), (-18000, 63153759600),
   (-14400, 63171295200), (-18000, 63185209200), (-14400, 63202744800), (-18000, 63216658800),
   (-14400, 63234799200), (-18000, 63248108400), (-14400, 63266248800), (-18000, 63279558000),
   (-14400, 63297698400), (-18000, 63309193200)]

def stJohns : List (Int × Nat) :=
  [(-12652, 60471466252), (-9052, 60485459452), (-12652, 60503520652), (-9052, 60520451452),
   (-12652, 60536946652), (-9052, 60545496652), (-12652, 60568309852), (-9052, 60584031052),
   (-12652, 60599759452), (-9052, 60615480652), (-12652, 60631813852), (-9052, 60646930252),
   (-12652, 60663263452), (-9052, 60678379852), (-12652, 60694713052), (-9052, 60709829452),
   (-12652, 60726162652), (-9052, 60741279052), (-12652, 60757612252), (-9052, 60773333452),
   (-12652, 60789061852), (-9052, 60804783052), (-12652, 60821116252), (-9052, 60836232652),
   (-12652, 60852565852), (-9052, 60867682252), (-12652, 60884015452), (-9052, 60899131852),
   (-12652, 60915465052), (-9052, 60930581452), (-12652, 60946914652), (-9052, 60962635852),
   (-12652, 60978969052), (-9052, 60994085452), (-12652, 61010418652), (-9052, 61025535052),
   (-12652, 61038675052), (-12600, 61041868200), (-9000, 61056984600), (-12600, 61073926200),
   (-9000, 61086623400), (-12600, 61105375800), (-9000, 61118073000), (-12600, 61136825400),
   (-9000, 61149522600), (-12600, 61168879800), (-9000, 61180972200), (-12600, 61200329400),
   (-9000, 61213026600), (-12600, 61231779000), (-9000, 61244476200), (-12600, 61263228600),
   (-9000, 61370195400), (-12600, 61389552600), (-9000, 61402249800), (-12600, 61421002200),
   (-9000, 61433699400), (-12600, 61452451800), (-9000, 61465149000), (-12600, 61483901400),
   (-9000, 61496598600), (-12600, 61515955800), (-9000, 61528653000), (-12600, 61546195800),
   (-9000, 61559497800), (-12600, 61577645400), (-9000, 61590947400), (-12600, 61609095000),
   (-9000, 61622397000), (-12600, 61640544600), (-9000, 61653846600), (-12600, 61671994200),
   (-9000, 61685296200), (-12600, 61704048600), (-9000, 61717350600), (-12600, 61735498200),
   (-9000, 61748800200), (-12600, 61766947800), (-9000, 61780249800), (-12600, 61798397400),
   (-9000, 61811699400), (-12600, 61829847000), (-9000, 61846173000), (-12600, 61861901400),
   (-9000, 61877622600), (-12600, 61893351000), (-9000, 61909072200), (-12600, 61924800600),
   (-9000, 61940521800), (-12600, 61956250200), (-9000, 61971971400), (-12600, 61987699800),
   (-9000, 62004025800), (-12600, 62019149400), (-9000, 62035475400), (-12600, 62051203800),
   (-9000, 62066925000), (-12600, 62082653400), (-9000, 62098374600), (-12600, 62114103000),
   (-9000, 62129824200), (-12600, 62145552600), (-9000, 62161273800), (-12600, 62177002200),
   (-9000, 62193328200), (-12600, 62209056600), (-9000, 62224777800), (-12600, 62240506200),
   (-9000, 62256227400), (-12600, 62271955800), (-9000, 62287677000), (-12600, 62303405400),
   (-9000, 62319126600), (-12600, 62334855000), (-9000, 62351181000), (-12600, 62366304600),
   (-9000, 62382630600), (-12600, 62398359000), (-9000, 62414080200), (-12600, 62429808600),
   (-9000, 62445529800), (-12600, 62461258200), (-9000, 62476979400), (-12600, 62492707800),
   (-9000, 62508429000), (-12600, 62524157400), (-9000, 62540483400), (-12600, 62555607000),
   (-9000, 62571933000), (-12600, 62587661400), (-9000, 62603382600), (-12600, 62619111000),
   (-9000, 62634832200), (-12600, 62650560600), (-9000, 62666281800), (-12600, 62680188660),
   (-9000, 62697724260), (-12600, 62711638260), (-5400, 62729775060), (-12600, 62743087860),
   (-9000, 62761228260), (-12600, 62774537460), (-9000, 62792677860), (-12600, 62806591860),
   (-9000, 62824127460), (-12600, 62838041460), (-9000, 62855577060), (-12600, 62869491060),
   (-9000, 62887631460), (-12600, 62900940660), (-9000, 62919081060), (-12600, 62932390260),
   (-9000, 62950530660), (-12600, 62964444660), (-9000, 62981980260), (-12600, 62995894260),
   (-9000, 63013429860), (-12600, 63027343860), (-9000, 63044879460), (-12600, 63058793460),
   (-9000, 63076933860), (-12600, 63090243060), (-9000, 63108383460), (-12600, 63121692660),
   (-9000, 63139833060), (-12600, 63153747060), (-9000, 63171282660), (-12600, 63185196660),
   (-9000, 63202732260), (-12600, 63216646260), (-9000, 63234786660), (-12600, 63248095860),
   (-9000, 63266236260), (-12600, 63279545460), (-9000, 63297685860), (-12600, 63309180660),
   (-9000, 63329740260), (-12600, 63340630260), (-9000, 63361189860), (-12600, 63372079860),
   (-9000, 63392639460), (-12600, 63404134260), (-9000, 63424693860), (-12600, 63435583860),
   (-9000, 63456150600)]

def sydney : List (Int × Nat) :=
  [(36292, 59771483708), (36000, 60463036800), (39600, 60470208000), (36000, 61251955200),
   (39600, 61259472000), (36000, 61275196800), (39600, 61290921600), (36000, 61307251200),
   (39600, 61322371200), (36000, 62193283200), (39600, 62203564800), (36000, 62224732800),
   (39600, 62235619200), (36000, 62256182400), (39600, 62267068800), (36000, 62287632000),
   (39600, 62298518400), (36000, 62319081600), (39600, 62330572800), (36000, 62351136000),
   (39600, 62362022400), (36000, 62382585600), (39600, 62393472000), (36000, 62414035200),
   (39600, 62424921600), (36000, 62445484800), (39600, 62456371200), (36000, 62476934400),
   (39600, 62487820800), (36000, 62508384000), (39600, 62522294400), (36000, 62540438400),
   (39600, 62551324800), (36000, 62571888000), (39600, 62582774400), (36000, 62603337600),
   (39600, 62614224000), (36000, 62634787200), (39600, 62646883200), (36000, 62665632000),
   (39600, 62678332800), (36000, 62697686400), (39600, 62710387200), (36000, 62729740800),
   (39600, 62741836800), (36000, 62761190400), (39600, 62772076800), (36000, 62792640000),
   (39600, 62803526400), (36000, 62824089600), (39600, 62834976000), (36000, 62855539200),
   (39600, 62867030400), (36000, 62887593600), (39600, 62898480000), (36000, 62919043200),
   (39600, 62929929600), (36000, 62950492800), (39600, 62963798400), (36000, 62981942400),
   (39600, 62995248000), (36000, 63013392000), (39600, 63026697600), (36000, 63044841600),
   (39600, 63058147200), (36000, 63076896000), (39600, 63089596800), (36000, 63102902400),
   (39600, 63121046400), (36000, 63139795200), (39600, 63153100800), (36000, 63171244800),
   (39600, 63184550400), (36000, 63202694400), (39600, 63216000000), (36000, 63234748800),
   (39600, 63247449600), (36000, 63266198400), (39600, 63279504000), (36000, 63297648000),
   (39600, 63310348800), (36000, 63329097600)]

def lordHowe : List (Int × Nat) :=
  [(38180, 59771481820), (36000, 62487813600), (37800, 62508382200), (41400, 62519869800),
   (37800, 62540436600), (41400, 62551319400), (37800, 62571886200), (41400, 62582769000),
   (37800, 62603335800), (41400, 62614218600), (37800, 62634785400), (39600, 62646879600),
   (37800, 62665630200), (39600, 62678329200), (37800, 62697684600), (39600, 62710383600),
   (37800, 62729739000), (39600, 62741833200), (37800, 62761188600), (39600, 62772073200),
   (37800, 62792638200), (39600, 62803522800), (37800, 62824087800), (39600, 62834972400),
   (37800, 62855537400), (39600, 62867026800), (37800, 62887591800), (39600, 62898476400),
   (37800, 62919041400), (39600, 62929926000), (37800, 62950491000), (39600, 62963794800),
   (37800, 62981940600), (39600, 62995244400), (37800, 63013390200), (39600, 63026694000),
   (37800, 63044839800), (39600, 63058143600), (37800, 63076894200), (39600, 63089593200),
   (37800, 63102900600), (39600, 63121042800), (37800, 63139793400), (39600, 63153097200),
   (37800, 63171243000), (39600, 63184546800), (37800, 63202692600), (39600, 63215996400),
   (37800, 63234747000), (39600, 63247446000), (37800, 63266196600), (39600, 63279500400),
   (37800, 63297646200), (39600, 63310345200), (37800, 63329095800)]

def chatham : List (Int × Nat) :=
  [(44028, 58943159172), (44100, 61378170300), (45900, 62288229600), (49500, 62297906400),
   (45900, 62319074400), (49500, 62330565600), (45900, 62351128800), (49500, 62362015200),
   (45900, 62382578400), (49500, 62393464800), (45900, 62414028000), (49500, 62424914400),
   (45900, 62445477600), (49500, 62456364000), (45900, 62476927200), (49500, 62487813600),
   (45900, 62508376800), (49500, 62519868000), (45900, 62540431200), (49500, 62551317600),
   (45900, 62571880800), (49500, 62582767200), (45900, 62603330400), (49500, 62614216800),
   (45900, 62634780000), (49500, 62645666400), (45900, 62666229600), (49500, 62677116000),
   (45900, 62697679200), (49500, 62709170400), (45900, 62729733600), (49500, 62740620000),
   (45900, 62759368800), (49500, 62773279200), (45900, 62790818400), (49500, 62804728800),
   (45900, 62822268000), (49500, 62836178400), (45900, 62853717600), (49500, 62868232800),
   (45900, 62885167200), (49500, 62899682400), (45900, 62916616800), (49500, 62931132000),
   (45900, 62948066400), (49500, 62962581600), (45900, 62980120800), (49500, 62994031200),
   (45900, 63011570400), (49500, 63025480800), (45900, 63043020000), (49500, 63057535200),
   (45900, 63074469600), (49500, 63088984800), (45900, 63105919200), (49500, 63120434400),
   (45900, 63137973600), (49500, 63151884000), (45900, 63169423200), (49500, 63183333600),
   (45900, 63200872800), (49500, 63215388000), (45900, 63232322400), (49500, 63246837600),
   (45900, 63263772000), (49500, 63278287200), (45900, 63295221600), (49500, 63309736800),
   (45900, 63326671200)]

def apia : List (Int × Nat) :=
  [(45184, 59690172416), (-41216, 60273718016), (-41400, 61504486200), (-39600, 63421095600),
   (-36000, 63437349600), (-39600, 63452469600), (-36000, 63460836000), (50400, 63468799200),
   (46800, 63484524000), (50400, 63500853600), (46800, 63515973600), (50400, 63532303200),
   (46800, 63547423200), (50400, 63563752800), (46800, 63578872800), (50400, 63595202400),
   (46800, 63610322400), (50400, 63626652000), (46800, 63641772000), (50400, 63658101600),
   (46800, 63673826400), (50400, 63690156000), (46800, 63705276000), (50400, 63721605600),
   (46800, 63736725600), (50400, 63753055200)]

def tokyo : List (Int × Nat) :=
  [(33539, 59547884400), (32400, 61451794800), (36000, 61463286000), (32400, 61480825200),
   (36000, 61494735600), (32400, 61515298800), (36000, 61526185200), (32400, 61546748400),
   (36000, 61557634800)]

def kolkata : List (Int × Nat) :=
  [(21208, 58490359592), (21200, 58979902000), (19270, 60115891130), (19800, 61244015400),
   (23400, 61263538200), (19800, 61272959400), (23400, 61371451800)]

def kathmandu : List (Int × Nat) :=
  [(20476, 60557653124), (19800, 62640498600)]

end FieldQuery.Zone.History
