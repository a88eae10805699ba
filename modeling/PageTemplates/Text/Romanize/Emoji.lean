import PageTemplates.Text.Romanize.Runs

/-!
# Names of emoji

The short English name of each emoji and picture sign that is one character. The table has a row for each run of neighbours;
a character between them without a name has an empty one.
-/

namespace PageTemplates.Text.Romanize

/-- The first character of each run and the names, a pilcrow between two of them. -/
def emojiRows : List (Nat × String) := [
  (0x231A, "watch¶hourglass"),
  (0x2328, "keyboard"),
  (0x2388, "helm symbol"),
  (0x23CF, "eject"),
  (0x23E9, "fast forward¶rewind¶arrow double up¶arrow double down¶track next¶track previous¶play pause¶alarm clock" ++
      "¶stopwatch¶timer¶hourglass flowing sand¶¶¶¶¶pause button¶stop button¶record button"),
  (0x2601, "cloud¶umbrella¶snowman¶comet¶¶¶lightning¶thunderstorm¶sun¶ascending node¶descending node¶conjunction¶opposition" ++
      "¶telephone¶telephone¶¶ballot box with check¶ballot box with x¶saltire¶umbrella¶coffee¶shogi piece¶shogi piece" ++
      "¶shamrock¶reversed rotated floral heart bullet¶left pointing index¶right pointing index¶left pointing index" ++
      "¶point up¶right pointing index¶down pointing index¶skull crossbones¶caution¶radioactive¶biohazard¶caduceus¶ankh" ++
      "¶orthodox cross¶chi rho¶cross of lorraine¶cross of jerusalem¶star and crescent¶farsi¶adi shakti¶hammer & sickle" ++
      "¶peace¶yin yang¶trigram for heaven¶trigram for lake¶trigram for fire¶trigram for thunder¶trigram for wind" ++
      "¶trigram for water¶trigram for mountain¶trigram for earth¶wheel of dharma¶frowning face¶relaxed¶smiling face¶" ++
      "¶first quarter moon¶last quarter moon¶mercury¶female sign¶earth¶male sign¶jupiter¶saturn¶uranus¶neptune¶pluto" ++
      "¶aries¶taurus¶gemini¶cancer¶leo¶virgo¶libra¶scorpius¶sagittarius¶capricorn¶aquarius¶pisces¶white king" ++
      "¶white queen¶white rook¶white bishop¶white knight¶white pawn¶black king¶black queen¶black rook¶black bishop" ++
      "¶black knight¶chess pawn¶spades¶hearts¶diamonds¶clubs¶spades¶hearts¶diamonds¶clubs¶hotsprings"),
  (0x2670, "west syriac cross¶east syriac cross¶universal recycling¶recycling for type-1 plastics" ++
      "¶recycling for type-2 plastics¶recycling for type-3 plastics¶recycling for type-4 plastics" ++
      "¶recycling for type-5 plastics¶recycling for type-6 plastics¶recycling for type-7 plastics" ++
      "¶recycling for generic materials¶recycle¶recycled paper¶partially-recycled paper¶infinity¶wheelchair¶1¶2¶3¶4¶5" ++
      "¶6¶circle with dot right¶circle with two dots¶circle with dot right¶circle with two dots¶monogram for yang" ++
      "¶monogram for yin¶digram for greater yang¶digram for lesser yin¶digram for lesser yang¶digram for greater yin" ++
      "¶flag¶flag¶hammer pick¶anchor¶crossed swords¶medical symbol¶scales¶alembic¶flower¶gear¶staff of hermes¶atom" ++
      "¶fleur-de-lis¶outlined star¶three lines converging right¶three lines converging left¶warning¶zap¶doubled female" ++
      "¶doubled male¶interlocked female & male¶male & female¶male with stroke¶male with stroke & male & female" ++
      "¶vertical male with stroke¶horizontal male with stroke¶white circle¶black circle¶medium small circle¶marriage" ++
      "¶divorce¶unmarried partnership¶coffin¶urn¶neuter¶ceres¶pallas¶juno¶vesta¶chiron¶moon lilith¶sextile¶semisextile" ++
      "¶quincunx¶sesquiquadrate¶soccer¶baseball¶squared key¶draughts man¶draughts king¶draughts man¶draughts king" ++
      "¶snowman¶partly sunny¶rain¶snowman¶thunder cloud rain¶turned shogi piece¶turned shogi piece¶diamond in square" ++
      "¶crossing lanes¶disabled car¶ophiuchus¶pick¶car sliding¶helmet with cross¶circled crossing lanes¶chains" ++
      "¶no entry¶alternate one-way left way traffic¶two-way left way traffic¶two-way left way traffic¶left lane merge" ++
      "¶left lane merge¶drive slow¶down-pointing triangle¶left closed entry¶squared saltire" ++
      "¶falling diagonal in circle in square¶truck¶restricted left entry-1¶restricted left entry-2" ++
      "¶astronomical for uranus¶circle with stroke & two dots above¶pentagram¶right-handed interlaced pentagram" ++
      "¶left-handed interlaced pentagram¶inverted pentagram¶cross on shield¶shinto shrine¶church¶castle¶historic site" ++
      "¶gear without hub¶gear with handles¶map for lighthouse¶mountain¶beach umbrella¶fountain¶golf¶ferry¶boat" ++
      "¶square four corners¶skier¶ice skate¶basketball player¶tent¶japanese bank¶headstone graveyard¶fuelpump" ++
      "¶cup on square¶flag with horizontal middle stripe¶safety scissors¶scissors¶scissors¶scissors¶scissors" ++
      "¶white check mark¶telephone¶tape drive¶airplane¶envelope¶fist¶hand¶v¶writing hand¶pencil¶pencil¶pencil¶nib" ++
      "¶black nib¶¶heavy check mark¶x¶heavy multiplication x¶x¶x¶outlined greek cross¶greek cross¶open centre cross" ++
      "¶open centre cross¶cross¶shadowed latin cross¶outlined latin cross¶maltese cross¶star of david" ++
      "¶four teardrop-spoked asterisk¶four balloon-spoked asterisk¶four balloon-spoked asterisk" ++
      "¶four club-spoked asterisk¶¶¶sparkles"),
  (0x2733, "eight spoked asterisk¶eight pointed black star"),
  (0x2744, "snowflake¶¶¶sparkle¶¶¶¶¶x¶shadowed circle¶negative squared cross mark¶drop-shadowed square¶drop-shadowed square" ++
      "¶shadowed square¶shadowed square¶question¶grey question¶grey exclamation¶diamond minus x¶exclamation" ++
      "¶light vertical bar¶medium vertical bar¶vertical bar¶single turned comma quotation mark ornament" ++
      "¶single comma quotation mark ornament¶double turned comma quotation mark ornament" ++
      "¶double comma quotation mark ornament¶low single comma quotation mark ornament" ++
      "¶low double comma quotation mark ornament¶curved stem paragraph ornament¶exclamation mark ornament" ++
      "¶heart exclamation¶heart¶rotated heart bullet¶floral heart¶rotated floral heart bullet"),
  (0x2795, "heavy plus sign¶heavy minus sign¶heavy division sign"),
  (0x27B0, "curly loop"),
  (0x27BF, "loop"),
  (0x2934, "arrow heading up¶arrow heading down"),
  (0x2B1B, "black large square¶white large square"),
  (0x2B55, "o"),
  (0x303D, "part alternation mark"),
  (0x1F201, "koko¶sa"),
  (0x1F21A, "u7121"),
  (0x1F22F, "u6307¶¶¶u7981¶u7a7a¶u5408¶u6e80¶u6709¶u6708¶u7533¶u5272¶u55b6"),
  (0x1F250, "ideograph advantage¶accept"),
  (0x1F300, "cyclone¶foggy¶closed umbrella¶night with stars¶sunrise over mountains¶sunrise¶city dusk¶city sunset¶rainbow" ++
      "¶bridge at night¶ocean¶volcano¶milky way¶earth africa¶earth americas¶earth asia¶globe with meridians¶new moon" ++
      "¶waxing crescent moon¶first quarter moon¶moon¶full moon¶waning gibbous moon¶last quarter moon" ++
      "¶waning crescent moon¶crescent moon¶new moon with face¶first quarter moon with face¶last quarter moon with face" ++
      "¶full moon with face¶sun with face¶¶stars¶thermometer¶¶¶white sun small cloud¶white sun cloud" ++
      "¶white sun rain cloud¶cloud rain¶cloud snow¶cloud lightning¶cloud tornado¶fog¶wind blowing face¶hotdog¶taco" ++
      "¶burrito¶chestnut¶seedling¶evergreen tree¶deciduous tree¶palm tree¶cactus¶hot pepper¶tulip¶cherry blossom¶rose" ++
      "¶hibiscus¶sunflower¶blossom¶corn¶ear of rice¶herb¶four leaf clover¶maple leaf¶fallen leaf¶leaves¶mushroom" ++
      "¶tomato¶eggplant¶grapes¶melon¶watermelon¶orange¶lemon¶banana¶pineapple¶apple¶green apple¶pear¶peach¶cherries" ++
      "¶strawberry¶hamburger¶pizza¶meat on bone¶poultry leg¶rice cracker¶rice ball¶rice¶curry¶ramen¶spaghetti¶bread" ++
      "¶fries¶sweet potato¶dango¶oden¶sushi¶fried shrimp¶fish cake¶icecream¶shaved ice¶ice cream¶doughnut¶cookie" ++
      "¶chocolate bar¶candy¶lollipop¶custard¶honey pot¶cake¶bento¶stew¶cooking¶fork and knife¶tea¶sake¶wine glass" ++
      "¶cocktail¶tropical drink¶beer¶beers¶baby bottle¶fork knife plate¶champagne¶popcorn¶ribbon¶gift¶birthday" ++
      "¶jack o lantern¶christmas tree¶santa¶fireworks¶sparkler¶balloon¶tada¶confetti ball¶tanabata tree¶crossed flags" ++
      "¶bamboo¶dolls¶flags¶wind chime¶rice scene¶school satchel¶mortar board¶¶¶military medal¶reminder ribbon¶" ++
      "¶studio microphone¶level slider¶control knobs¶¶¶film frames¶tickets¶carousel horse¶ferris wheel¶roller coaster" ++
      "¶fishing pole and fish¶microphone¶movie camera¶cinema¶headphones¶art¶tophat¶circus tent¶ticket¶clapper" ++
      "¶performing arts¶video game¶dart¶slot machine¶8ball¶game die¶bowling¶flower playing cards¶musical note¶notes" ++
      "¶saxophone¶guitar¶musical keyboard¶trumpet¶violin¶musical score¶running shirt with sash¶tennis¶ski¶basketball" ++
      "¶checkered flag¶snowboarder¶runner¶surfer¶medal¶trophy¶horse racing¶football¶rugby football¶swimmer" ++
      "¶person lifting weights¶person golfing¶motorcycle¶race car¶cricket game¶volleyball¶field hockey¶hockey" ++
      "¶ping pong¶mountain snow¶camping¶beach¶construction site¶homes¶cityscape¶house abandoned¶classical building" ++
      "¶desert¶island¶park¶stadium¶house¶house with garden¶office¶post office¶european post office¶hospital¶bank¶atm" ++
      "¶hotel¶love hotel¶convenience store¶school¶department store¶factory¶izakaya lantern¶japanese castle" ++
      "¶european castle¶¶¶flag white¶black flag¶rosette¶¶label¶badminton¶bow and arrow¶amphora¶¶¶¶¶¶rat¶mouse2¶ox" ++
      "¶water buffalo¶cow2¶tiger2¶leopard¶rabbit2¶cat2¶dragon¶crocodile¶whale2¶snail¶snake¶racehorse¶ram¶goat¶sheep" ++
      "¶monkey¶rooster¶chicken¶dog2¶pig2¶boar¶elephant¶octopus¶shell¶bug¶ant¶bee¶beetle¶fish¶tropical fish¶blowfish" ++
      "¶turtle¶hatching chick¶baby chick¶hatched chick¶bird¶penguin¶koala¶poodle¶dromedary camel¶camel¶dolphin¶mouse" ++
      "¶cow¶tiger¶rabbit¶cat¶dragon face¶whale¶horse¶monkey face¶dog¶pig¶frog¶hamster¶wolf¶bear¶panda face¶pig nose" ++
      "¶feet¶chipmunk¶eyes¶eye¶ear¶nose¶lips¶tongue¶point up 2¶point down¶point left¶point right¶punch¶wave¶ok hand¶+1" ++
      "¶-1¶clap¶open hands¶crown¶womans hat¶eyeglasses¶necktie¶shirt¶jeans¶dress¶kimono¶bikini¶womans clothes¶purse" ++
      "¶handbag¶pouch¶shoe¶athletic shoe¶high heel¶sandal¶boot¶footprints¶bust in silhouette¶busts in silhouette¶boy" ++
      "¶girl¶man¶woman¶family¶couple¶two men holding hands¶two women holding hands¶cop¶dancers¶person with veil" ++
      "¶blond haired person¶man with gua pi mao¶person with turban¶older man¶older woman¶baby¶construction worker" ++
      "¶princess¶japanese ogre¶japanese goblin¶ghost¶angel¶alien¶space invader¶imp¶skull¶tipping hand person¶guard" ++
      "¶dancer¶lipstick¶nail care¶massage¶haircut¶barber¶syringe¶pill¶kiss¶love letter¶ring¶gem¶couplekiss¶bouquet" ++
      "¶couple with heart¶wedding¶heartbeat¶broken heart¶two hearts¶sparkling heart¶heartpulse¶cupid¶blue heart" ++
      "¶green heart¶yellow heart¶purple heart¶gift heart¶revolving hearts¶heart decoration" ++
      "¶diamond shape with a dot inside¶bulb¶anger¶bomb¶zzz¶boom¶sweat drops¶droplet¶dash¶poop¶muscle¶dizzy" ++
      "¶speech balloon¶thought balloon¶white flower¶100¶moneybag¶currency exchange¶heavy dollar sign¶credit card¶yen" ++
      "¶dollar¶euro¶pound¶money with wings¶chart¶seat¶computer¶briefcase¶minidisc¶floppy disk¶cd¶dvd¶file folder" ++
      "¶open file folder¶page with curl¶page facing up¶date¶calendar¶card index¶chart with upwards trend" ++
      "¶chart with downwards trend¶bar chart¶clipboard¶pushpin¶round pushpin¶paperclip¶straight ruler¶triangular ruler" ++
      "¶bookmark tabs¶ledger¶notebook¶notebook with decorative cover¶closed book¶book¶green book¶blue book¶orange book" ++
      "¶books¶name badge¶scroll¶memo¶telephone receiver¶pager¶fax¶satellite¶loudspeaker¶mega¶outbox tray¶inbox tray" ++
      "¶package¶e-mail¶incoming envelope¶envelope with arrow¶mailbox closed¶mailbox¶mailbox with mail" ++
      "¶mailbox with no mail¶postbox¶postal horn¶newspaper¶iphone¶calling¶vibration mode¶mobile phone off" ++
      "¶no mobile phones¶signal strength¶camera¶camera flash¶video camera¶tv¶radio¶vhs¶projector¶¶prayer beads" ++
      "¶twisted rightwards arrows¶repeat¶repeat one¶arrows clockwise¶arrows counterclockwise¶low brightness" ++
      "¶high brightness¶mute¶speaker¶sound¶loud sound¶battery¶electric plug¶mag¶mag right¶lock with ink pen" ++
      "¶closed lock with key¶key¶lock¶unlock¶bell¶no bell¶bookmark¶link¶radio button¶back¶end¶on¶soon¶top¶underage" ++
      "¶keycap ten¶capital abcd¶abcd¶1234¶symbols¶abc¶fire¶flashlight¶wrench¶hammer¶nut and bolt¶hocho¶gun¶microscope" ++
      "¶telescope¶crystal ball¶six pointed star¶beginner¶trident¶black square button¶white square button¶red circle" ++
      "¶blue circle¶large orange diamond¶large blue diamond¶small orange diamond¶small blue diamond¶small red triangle" ++
      "¶small red triangle down¶arrow up small¶arrow down small"),
  (0x1F549, "om symbol¶dove¶kaaba¶mosque¶synagogue¶menorah¶¶clock1¶clock2¶clock3¶clock4¶clock5¶clock6¶clock7¶clock8¶clock9" ++
      "¶clock10¶clock11¶clock12¶clock130¶clock230¶clock330¶clock430¶clock530¶clock630¶clock730¶clock830¶clock930" ++
      "¶clock1030¶clock1130¶clock1230"),
  (0x1F56F, "candle¶clock¶¶¶hole¶levitate¶detective¶dark sunglasses¶spider¶spider web¶joystick¶man dancing"),
  (0x1F587, "paperclips¶¶¶pen ballpoint¶pen fountain¶paintbrush¶crayon¶¶¶hand splayed¶¶¶¶¶fu¶vulcan"),
  (0x1F5A4, "black heart¶desktop¶¶¶printer"),
  (0x1F5B1, "mouse three button¶trackball"),
  (0x1F5BC, "frame photo¶¶¶¶¶¶dividers¶card box¶file cabinet"),
  (0x1F5D1, "wastebasket¶notepad spiral¶calendar spiral"),
  (0x1F5DC, "compression¶old key¶rolled up newspaper¶¶¶dagger¶¶speaking head¶¶¶¶¶speech left¶¶¶¶¶¶¶anger right¶¶¶¶ballot box" ++
      "¶¶¶¶¶¶¶map¶mount fuji¶tokyo tower¶statue of liberty¶japan¶moyai¶grinning¶grin¶joy¶smiley¶smile¶sweat smile" ++
      "¶laughing¶innocent¶smiling imp¶wink¶blush¶yum¶relieved¶heart eyes¶sunglasses¶smirk¶neutral face¶expressionless" ++
      "¶unamused¶sweat¶pensive¶confused¶confounded¶kissing¶kissing heart¶kissing smiling eyes¶kissing closed eyes" ++
      "¶stuck out tongue¶stuck out tongue winking eye¶stuck out tongue closed eyes¶disappointed¶worried¶angry¶rage¶cry" ++
      "¶persevere¶triumph¶disappointed relieved¶frowning¶anguished¶fearful¶weary¶sleepy¶tired face¶grimacing¶sob" ++
      "¶open mouth¶hushed¶cold sweat¶scream¶astonished¶flushed¶sleeping¶dizzy face¶no mouth¶mask¶smile cat¶joy cat" ++
      "¶smiley cat¶heart eyes cat¶smirk cat¶kissing cat¶pouting cat¶crying cat face¶scream cat¶slightly frowning face" ++
      "¶slight smile¶upside down¶roll eyes¶no good¶ok person¶bow¶see no evil¶hear no evil¶speak no evil¶raising hand" ++
      "¶raised hands¶frowning person¶pouting face¶pray"),
  (0x1F680, "rocket¶helicopter¶steam locomotive¶railway car¶bullettrain side¶bullettrain front¶train2¶metro¶light rail" ++
      "¶station¶tram¶train¶bus¶oncoming bus¶trolleybus¶busstop¶minibus¶ambulance¶fire engine¶police car" ++
      "¶oncoming police car¶taxi¶oncoming taxi¶car¶oncoming automobile¶blue car¶truck¶articulated lorry¶tractor" ++
      "¶monorail¶mountain railway¶suspension railway¶mountain cableway¶aerial tramway¶ship¶rowboat¶speedboat" ++
      "¶traffic light¶vertical traffic light¶construction¶rotating light¶triangular flag on post¶door¶no entry sign" ++
      "¶smoking¶no smoking¶put litter in its place¶do not litter¶potable water¶non-potable water¶bike¶no bicycles" ++
      "¶bicyclist¶mountain bicyclist¶walking¶no pedestrians¶children crossing¶mens¶womens¶restroom¶baby symbol¶toilet" ++
      "¶wc¶shower¶bath¶bathtub¶passport control¶customs¶baggage claim¶left luggage¶¶¶¶¶¶couch¶sleeping bed" ++
      "¶shopping bags¶bellhop¶bed¶place of worship¶stop sign¶shopping cart¶¶¶hindu temple¶hut¶elevator¶¶¶¶¶wireless" ++
      "¶playground slide¶wheel¶ring buoy¶tools¶shield¶oil¶motorway¶railway track¶motorboat¶¶¶¶airplane small¶" ++
      "¶flight departure¶flight arrival¶¶¶¶satellite orbital¶¶¶cruise ship¶scooter¶motor scooter¶canoe¶sled" ++
      "¶flying saucer¶skateboard¶auto rickshaw¶pickup truck¶roller skate"),
  (0x1F7E0, "orange circle¶yellow circle¶green circle¶purple circle¶brown circle¶red square¶blue square¶orange square" ++
      "¶yellow square¶green square¶purple square¶brown square¶¶¶¶¶heavy equals sign"),
  (0x1F90C, "pinched fingers¶white heart¶brown heart¶pinching hand¶zipper mouth¶money mouth¶thermometer face¶nerd¶thinking" ++
      "¶head bandage¶robot¶hugs¶metal¶call me¶raised back of hand¶fist left¶fist right¶handshake¶crossed fingers" ++
      "¶love you gesture¶cowboy¶clown¶nauseated face¶rofl¶drooling face¶lying face¶facepalm¶sneezing face" ++
      "¶raised eyebrow¶star struck¶zany face¶shushing face¶cursing face¶hand over mouth¶vomiting face¶exploding head" ++
      "¶pregnant woman¶breast feeding¶palms up together¶selfie¶prince¶person in tuxedo¶mrs claus¶shrug¶cartwheeling" ++
      "¶juggling person¶person fencing¶¶wrestling¶water polo¶handball person¶diving mask¶wilted rose¶drum" ++
      "¶champagne glass¶tumbler glass¶spoon¶goal¶¶first place¶second place¶third place¶boxing glove" ++
      "¶martial arts uniform¶curling stone¶lacrosse¶softball¶flying disc¶croissant¶avocado¶cucumber¶bacon¶potato" ++
      "¶carrot¶french bread¶salad¶shallow pan of food¶stuffed flatbread¶egg¶milk¶peanuts¶kiwi¶pancakes¶dumpling" ++
      "¶fortune cookie¶takeout box¶chopsticks¶bowl with spoon¶cup with straw¶coconut¶broccoli¶pie¶pretzel¶cut of meat" ++
      "¶sandwich¶canned food¶leafy green¶mango¶moon cake¶bagel¶smiling face with 3 hearts¶yawning face" ++
      "¶smiling face with tear¶partying face¶woozy face¶hot face¶cold face¶ninja¶disguised face" ++
      "¶face holding back tears¶pleading face¶sari¶lab coat¶goggles¶hiking boot¶flat shoe¶crab¶lion¶scorpion¶turkey" ++
      "¶unicorn¶eagle¶duck¶bat¶shark¶owl¶fox¶butterfly¶deer¶gorilla¶lizard¶rhino¶shrimp¶squid¶giraffe¶zebra¶hedgehog" ++
      "¶sauropod¶t-rex¶cricket¶kangaroo¶llama¶peacock¶hippopotamus¶parrot¶raccoon¶lobster¶mosquito¶microbe¶badger¶swan" ++
      "¶mammoth¶dodo¶sloth¶otter¶orangutan¶skunk¶flamingo¶oyster¶beaver¶bison¶seal¶guide dog¶probing cane¶red hair" ++
      "¶curly hair¶bald¶white hair¶bone¶leg¶foot¶tooth¶superhero¶supervillain¶safety vest¶ear with hearing aid" ++
      "¶motorized wheelchair¶manual wheelchair¶mechanical arm¶mechanical leg¶cheese¶cupcake¶salt¶beverage box¶garlic" ++
      "¶onion¶falafel¶waffle¶butter¶mate¶ice cube¶bubble tea¶troll¶standing person¶kneeling person¶deaf person" ++
      "¶monocle face¶adult¶child¶older adult¶bearded person¶woman with headscarf¶sauna person¶climbing¶lotus position" ++
      "¶mage¶fairy¶vampire¶merperson¶elf¶genie¶zombie¶brain¶orange heart¶billed cap¶scarf¶gloves¶coat¶socks" ++
      "¶red envelope¶firecracker¶jigsaw¶test tube¶petri dish¶dna¶compass¶abacus¶fire extinguisher¶toolbox¶bricks" ++
      "¶magnet¶luggage¶lotion bottle¶thread¶yarn¶safety pin¶teddy bear¶broom¶basket¶roll of paper¶soap¶sponge¶receipt" ++
      "¶nazar amulet"),
  (0x1FA70, "ballet shoes¶one piece swimsuit¶briefs¶shorts¶thong sandal¶light blue heart¶grey heart¶pink heart¶drop of blood" ++
      "¶adhesive bandage¶stethoscope¶¶¶¶¶¶yo yo¶kite¶parachute¶boomerang¶magic wand¶pinata¶nesting dolls¶maracas¶flute"),
  (0x1FA90, "ringed planet¶chair¶razor¶axe¶diya lamp¶banjo¶military helmet¶accordion¶long drum¶coin¶carpentry saw" ++
      "¶screwdriver¶ladder¶hook¶mirror¶window¶plunger¶sewing needle¶knot¶bucket¶mouse trap¶toothbrush¶headstone" ++
      "¶placard¶rock¶mirror ball¶identification card¶low battery¶hamsa¶folding hand fan¶hair pick¶khanda¶fly¶worm" ++
      "¶beetle¶cockroach¶potted plant¶wood¶feather¶lotus¶coral¶empty nest¶nest with eggs¶hyacinth¶jellyfish¶wing¶" ++
      "¶goose¶anatomical heart¶lungs¶people hugging¶pregnant man¶pregnant person¶person with crown"),
  (0x1FACE, "moose¶donkey¶blueberries¶bell pepper¶olive¶flatbread¶tamale¶fondue¶teapot¶pouring liquid¶beans¶jar¶ginger root" ++
      "¶pea pod¶¶¶¶¶melting face¶saluting face¶face with open eyes and hand over mouth¶face with peeking eye" ++
      "¶face with diagonal mouth¶dotted line face¶biting lip¶bubbles¶shaking face"),
  (0x1FAF0, "hand with index finger and thumb crossed¶rightwards hand¶leftwards hand¶palm down hand¶palm up hand" ++
      "¶index pointing at the viewer¶heart hands¶leftwards pushing hand¶rightwards pushing hand")
]

/-- The runs with their names apart. -/
def emojiNames : List (Nat × List String) :=
  openRuns emojiRows

/-- The name of an emoji. -/
def emojiName? (n : Nat) : Option String :=
  (findInRuns? emojiNames n).filter (· ≠ "")

end PageTemplates.Text.Romanize
